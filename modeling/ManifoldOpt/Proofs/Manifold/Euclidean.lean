import Mathlib.Analysis.InnerProductSpace.PiL2
import ManifoldOpt.Manifold.Euclidean
import ManifoldOpt.Proofs.Scalar.Exact
import ManifoldOpt.Proofs.Tensor

set_option autoImplicit false

namespace ManifoldOpt

open scoped RealInnerProductSpace

namespace Tensor

noncomputable def toVector (shape : Shape) (x : Tensor ℝ) : EuclideanSpace ℝ (Fin shape.size) :=
  WithLp.toLp 2 fun i => x.entries.getD i 0

variable {shape : Shape} {x y : Tensor ℝ}

@[simp] theorem toVector_apply (i : Fin shape.size) :
    x.toVector shape i = x.entries.getD i 0 := rfl

theorem toVector_scale (c : ℝ) : (x.scale c).toVector shape = c • x.toVector shape := by
  ext i
  by_cases inside : (i : Nat) < x.entries.length
  · simp [scale, inside]
  · simp [scale, Nat.not_lt.mp inside]

theorem total_real : x.total = x.entries.sum := by
  rw [List.sum_eq_foldl]
  rfl

theorem add_of_shape (hx : x.shape = shape) (hy : y.shape = shape) :
    ∃ z, x.add y = .ok z ∧ z.shape = shape ∧
      z.toVector shape = x.toVector shape + y.toVector shape := by
  refine ⟨_, pointwise_of_shape _ (hx.trans hy.symm), hx, ?_⟩
  ext i
  have left : i < x.entries.length := by rw [x.size_eq, hx]; exact i.isLt
  have right : i < y.entries.length := by rw [y.size_eq, hy]; exact i.isLt
  simp [zipSame, left, right]

theorem sub_of_shape (hx : x.shape = shape) (hy : y.shape = shape) :
    ∃ z, x.sub y = .ok z ∧ z.shape = shape ∧
      z.toVector shape = x.toVector shape - y.toVector shape := by
  refine ⟨_, pointwise_of_shape _ (hx.trans hy.symm), hx, ?_⟩
  ext i
  have left : i < x.entries.length := by rw [x.size_eq, hx]; exact i.isLt
  have right : i < y.entries.length := by rw [y.size_eq, hy]; exact i.isLt
  simp [zipSame, left, right]

theorem inner_toVector (hx : x.shape = shape) (hy : y.shape = shape) :
    ⟪x.toVector shape, y.toVector shape⟫ = (List.zipWith (· * ·) x.entries y.entries).sum := by
  have size : (List.zipWith (· * ·) x.entries y.entries).length = shape.size := by
    simp [x.size_eq, y.size_eq, hx, hy]
  rw [PiLp.inner_apply, ← Fin.sum_univ_getElem]
  refine Fintype.sum_equiv (finCongr size.symm) _ _ fun i => ?_
  have left : i < x.entries.length := by rw [x.size_eq, hx]; exact i.isLt
  have right : i < y.entries.length := by rw [y.size_eq, hy]; exact i.isLt
  simp [left, right, mul_comm]

end Tensor

section Euclidean

variable {shape : Shape} {p u v : Tensor ℝ}

theorem euclidean_inner (hu : u.shape = shape) (hv : v.shape = shape) :
    (euclidean shape).inner p u v = .ok (.scalar ⟪u.toVector shape, v.toVector shape⟫) := by
  rw [Tensor.inner_toVector hu hv]
  simp only [euclidean, Tensor.mul, Tensor.pointwise_of_shape _ (hu.trans hv.symm)]
  exact congrArg (fun total => Except.ok (Tensor.scalar total)) Tensor.total_real

theorem euclidean_normNumber (hv : v.shape = shape) :
    (euclidean shape).normNumber p v = .ok ‖v.toVector shape‖ := by
  rw [Manifold.normNumber, Manifold.norm, euclidean_inner hv hv, real_inner_self_eq_norm_sq]
  change Except.ok √(‖v.toVector shape‖ ^ 2) = _
  rw [Real.sqrt_sq (norm_nonneg _)]

theorem euclidean_normNumber_single (p : Tensor ℝ) (c : ℝ) :
    (euclidean [1]).normNumber p (.vector [c]) = .ok |c| := by
  rw [@euclidean_normNumber [1] p _ rfl, EuclideanSpace.norm_eq]
  change Except.ok √(∑ i : Fin 1, ‖c‖ ^ 2) = _
  simp [Real.sqrt_sq_eq_abs]

theorem euclidean_retract {α : Type} [Scalar α] {p v q : Tensor α} {method : Literal α}
    (moved : (euclidean shape).retract p v method = .ok q) : p.add v = .ok q := by
  unfold Manifold.retract at moved
  cases chosen : (euclidean shape).retraction method with
  | error e =>
    rw [chosen] at moved
    cases moved
  | ok m =>
    rw [chosen] at moved
    -- Both retractions add the vector to the point.
    cases m with
    | exponential => exact moved
    | projection => exact moved

theorem euclidean_retract_against {q : Tensor ℝ} {method : Literal ℝ} {length : ℝ}
    (hp : p.shape = shape) (hv : v.shape = shape)
    (moved : (euclidean shape).retract p (v.scale (-length)) method = .ok q) :
    q.shape = shape ∧ q.toVector shape = p.toVector shape - length • v.toVector shape := by
  obtain ⟨sum, added, same, vector⟩ := Tensor.add_of_shape hp (y := v.scale (-length)) hv
  obtain rfl : sum = q := Except.ok.inj (added.symm.trans (euclidean_retract moved))
  refine ⟨same, ?_⟩
  rw [vector, Tensor.toVector_scale, neg_smul, sub_eq_add_neg]

end Euclidean

end ManifoldOpt
