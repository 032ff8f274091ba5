import ManifoldOpt.Proofs.Linear.Image
import ManifoldOpt.Proofs.Manifold.Geodesic

set_option autoImplicit false

namespace ManifoldOpt

open scoped RealInnerProductSpace

namespace Tensor

theorem length_scale (x : Tensor ℝ) (c : ℝ) : (x.scale c).length = |c| * x.length := by
  have shape : (x.scale c).shape = x.shape := rfl
  rw [length_toVector shape, length_toVector (x := x) rfl, toVector_scale, norm_smul,
    Real.norm_eq_abs]

theorem scale_of_zeros {x : Tensor ℝ} (zero : x = x.zerosLike) (c : ℝ) : x.scale c = x := by
  rw [zero]
  refine ext rfl ?_
  change (List.replicate _ (0 : ℝ)).map (Scalar.product c) = List.replicate _ 0
  rw [List.map_replicate, Scalar.product_real, mul_zero]

end Tensor

/-- Where a vector has a norm, so do all arrays of its shape, and the norm is the length. -/
def Manifold.MeasuresLength (M : Manifold ℝ) : Prop :=
  ∀ {p v w : Tensor ℝ} {norm : ℝ}, M.normNumber p v = .ok norm → w.shape = v.shape →
    M.normNumber p w = .ok w.length

theorem euclidean_measuresLength (shape : Shape) : (euclidean shape).MeasuresLength := by
  intro p v w norm _ _
  rw [Tensor.length_toVector (x := w) rfl]
  exact @euclidean_normNumber w.shape p w rfl

namespace Sphere

theorem axes_of_normNumber {m : ℕ} {p v : Tensor ℝ} {norm : ℝ}
    (measured : (sphere m).normNumber p v = .ok norm) : v.shape = [] ∨ ∃ k, v.shape = [k] := by
  obtain ⟨root, rooted, number⟩ := Outcome.bind_eq_ok.mp measured
  obtain ⟨square, squared, rooted⟩ := Outcome.bind_eq_ok.mp rooted
  cases rooted
  have item : square.shape = [] := by
    by_contra axes
    simp [Tensor.number, Tensor.item?, axes] at number
  change v.dot v = .ok square at squared
  cases axes : v.shape.reverse with
  | nil => exact .inl (List.reverse_eq_nil_iff.mp axes)
  | cons k left =>
    cases left with
    | nil => exact .inr ⟨k, List.reverse_eq_iff.mp axes⟩
    | cons l outer =>
      -- The product of arrays with more axes keeps some of them.
      simp only [Tensor.dot, axes] at squared
      split at squared
      · cases squared
        simp [Tensor.contract, Tensor.tabulate] at item
      · cases squared

theorem measuresLength (m : ℕ) : (sphere m).MeasuresLength := by
  intro p v w norm measured same
  have squared : w.dot w = .ok (.scalar ((w.map Scalar.square).total)) := by
    obtain axes | ⟨k, axes⟩ := axes_of_normNumber measured
    · obtain ⟨shape, entries, size⟩ := w
      obtain rfl : shape = [] := same.trans axes
      obtain ⟨a, rfl⟩ := List.length_eq_one_iff.mp size
      simp [Tensor.dot, Tensor.mul, Tensor.pointwise, Tensor.zipSame, Tensor.total, Tensor.scalar]
    · rw [Tensor.dot_toVector (same.trans axes) (same.trans axes),
        Tensor.inner_toVector (same.trans axes) (same.trans axes), Tensor.total_real,
        List.zipWith_self]
      rfl
  exact Outcome.bind_eq_ok.mpr ⟨_, Outcome.bind_eq_ok.mpr ⟨_, squared, rfl⟩, rfl⟩

theorem normNumber_of_shape {n : ℕ} {p v : Tensor ℝ} (hv : v.shape = [n + 1]) :
    (sphere n).normNumber p v = .ok v.length := by
  rw [Tensor.length_toVector hv]
  exact Outcome.bind_eq_ok.mpr ⟨_, norm_of_shape hv, rfl⟩

end Sphere

theorem euclidean_distNumber {shape : Shape} {p q : Tensor ℝ} (hp : p.shape = shape)
    (hq : q.shape = shape) :
    (euclidean shape).distNumber p q = .ok ‖q.toVector shape - p.toVector shape‖ := by
  obtain ⟨d, difference, hd, vector⟩ := Tensor.sub_of_shape hq hp
  rw [← vector, ← Tensor.length_toVector hd]
  exact Outcome.bind_eq_ok.mpr ⟨_, Outcome.bind_eq_ok.mpr ⟨d, difference, rfl⟩, rfl⟩

theorem Sphere.distNumber_of_arc {n : ℕ} {x v : Tensor ℝ} (hx : Point n x) (tangent : Tangent n x v)
    (long : Tolerance.epsilon ≤ v.length) (half : v.length ≤ Real.pi) :
    ∃ y, exp x v = .ok y ∧ (sphere n).distNumber x y = .ok v.length := by
  obtain ⟨y, moved, shape, vector⟩ := exp_of_shape hx.shape tangent.vector
  rw [Tensor.length_toVector tangent.vector] at *
  rw [if_neg (not_lt.mpr long)] at vector
  have moving : v.toVector [n + 1] ≠ 0 :=
    norm_ne_zero_iff.mp (Tolerance.epsilon_pos.trans_le long).ne'
  have hy : Point n y := ⟨shape, by rw [vector, norm_circle hx.unit tangent.orthogonal moving]⟩
  have angle : arc n x y = ‖v.toVector [n + 1]‖ := by
    rw [arc, vector, angle_circle hx.unit tangent.orthogonal moving half]
  rw [← angle]
  exact ⟨y, moved, Outcome.bind_eq_ok.mpr ⟨_, dist_of_points hx hy, rfl⟩⟩

end ManifoldOpt
