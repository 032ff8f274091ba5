import ManifoldOpt.Proofs.Manifold.Euclidean
import ManifoldOpt.Proofs.Manifold.Shaped

set_option autoImplicit false

namespace ManifoldOpt

open scoped RealInnerProductSpace

namespace Tensor

variable {shape : Shape} {x : Tensor ℝ}

theorem toVector_quotient (c : ℝ) :
    (x.map (Scalar.quotient · c)).toVector shape = c⁻¹ • x.toVector shape := by
  ext i
  by_cases inside : (i : Nat) < x.entries.length
  · simp [inside, div_eq_inv_mul]
  · simp [Nat.not_lt.mp inside]

theorem length_toVector (hx : x.shape = shape) : x.length = ‖x.toVector shape‖ := by
  rw [← Real.sqrt_sq (norm_nonneg (x.toVector shape)), ← real_inner_self_eq_norm_sq,
    inner_toVector hx hx, length, total_real, List.zipWith_self]
  rfl

end Tensor

section Orthogonal

variable {E : Type*} [NormedAddCommGroup E] [InnerProductSpace ℝ E] {x v : E}
  (orthogonal : ⟪x, v⟫ = 0)

include orthogonal

theorem norm_combination_sq (a b : ℝ) : ‖a • x + b • v‖ ^ 2 = a ^ 2 * ‖x‖ ^ 2 + b ^ 2 * ‖v‖ ^ 2 := by
  have scaled : ⟪a • x, b • v⟫ = 0 := by
    rw [real_inner_smul_left, real_inner_smul_right, orthogonal, mul_zero, mul_zero]
  rw [norm_add_sq_real, scaled, norm_smul, norm_smul, mul_pow, mul_pow, Real.norm_eq_abs,
    Real.norm_eq_abs, sq_abs, sq_abs]
  ring

theorem norm_sum_sq : ‖x + v‖ ^ 2 = ‖x‖ ^ 2 + ‖v‖ ^ 2 := by
  have same := norm_combination_sq orthogonal 1 1
  simpa using same

theorem one_le_norm_sum (unit : ‖x‖ = 1) : 1 ≤ ‖x + v‖ := by
  have same := norm_sum_sq orthogonal
  rw [unit] at same
  nlinarith [norm_nonneg (x + v), sq_nonneg ‖v‖]

theorem norm_circle_sq (moving : v ≠ 0) :
    ‖Real.cos ‖v‖ • x + Real.sin ‖v‖ • ‖v‖⁻¹ • v‖ ^ 2 =
      Real.cos ‖v‖ ^ 2 * ‖x‖ ^ 2 + Real.sin ‖v‖ ^ 2 := by
  have length : ‖v‖ ≠ 0 := norm_ne_zero_iff.mpr moving
  rw [smul_smul, norm_combination_sq orthogonal]
  field_simp

end Orthogonal

namespace Sphere

variable {m : ℕ} {x v : Tensor ℝ} (hx : x.shape = [m + 1]) (hv : v.shape = [m + 1])

include hx hv

theorem retr_of_shape :
    ∃ y, x.add v = .ok y ∧ y.shape = [m + 1] ∧
      y.toVector [m + 1] = x.toVector [m + 1] + v.toVector [m + 1] ∧
      retr x v = .ok (y.map (Scalar.quotient · y.length)) := by
  obtain ⟨y, added, shape, vector⟩ := Tensor.add_of_shape hx hv
  exact ⟨y, added, shape, vector, Outcome.bind_eq_ok.mpr ⟨y, added, rfl⟩⟩

theorem exp_of_shape :
    ∃ q, exp x v = .ok q ∧ q.shape = [m + 1] ∧
      q.toVector [m + 1] =
        if ‖v.toVector [m + 1]‖ < Tolerance.epsilon then x.toVector [m + 1] + v.toVector [m + 1]
        else Real.cos ‖v.toVector [m + 1]‖ • x.toVector [m + 1] +
          Real.sin ‖v.toVector [m + 1]‖ • ‖v.toVector [m + 1]‖⁻¹ • v.toVector [m + 1] := by
  have angle : v.length = ‖v.toVector [m + 1]‖ := Tensor.length_toVector hv
  let safe := Scalar.maximum v.length Tolerance.epsilon
  obtain ⟨near, added, near_shape, near_vector⟩ := Tensor.add_of_shape hx hv
  obtain ⟨far, walked, far_shape, far_vector⟩ :=
    Tensor.add_of_shape (x := x.scale (Scalar.cos safe))
      (y := (v.map (Scalar.quotient · safe)).scale (Scalar.sin safe)) hx hv
  refine ⟨if v.length < Tolerance.epsilon then near else far, ?_, ?_, ?_⟩
  · exact Outcome.bind_eq_ok.mpr ⟨far, walked, Outcome.bind_eq_ok.mpr ⟨near, added, rfl⟩⟩
  · split
    next => exact near_shape
    next => exact far_shape
  · rw [← angle]
    split
    next => exact near_vector
    next long =>
      -- An angle that is not too small is divided by as it is.
      have same : safe = v.length := by
        simp [safe, Scalar.maximum, not_lt.mp long]
      rw [far_vector, Tensor.toVector_scale, Tensor.toVector_scale, Tensor.toVector_quotient, same]
      rfl

omit hx hv

structure Tangent (m : ℕ) (x v : Tensor ℝ) : Prop where
  point : x.shape = [m + 1]
  vector : v.shape = [m + 1]
  orthogonal : ⟪x.toVector [m + 1], v.toVector [m + 1]⟫ = 0

section Tangent

variable (tangent : Tangent m x v)

include tangent

theorem Tangent.scale (c : ℝ) : Tangent m x (v.scale c) where
  point := tangent.point
  vector := tangent.vector
  orthogonal := by
    rw [Tensor.toVector_scale, real_inner_smul_right, tangent.orthogonal, mul_zero]

theorem retr_of_tangent (unit : ‖x.toVector [m + 1]‖ = 1) :
    ∃ y, x.add v = .ok y ∧ 1 ≤ y.length ∧ retr x v = .ok (y.map (Scalar.quotient · y.length)) ∧
      y.shape = [m + 1] ∧ ‖(y.map (Scalar.quotient · y.length)).toVector [m + 1]‖ = 1 := by
  obtain ⟨y, added, shape, vector, moved⟩ := retr_of_shape tangent.point tangent.vector
  have length : y.length = ‖x.toVector [m + 1] + v.toVector [m + 1]‖ := by
    rw [Tensor.length_toVector shape, vector]
  have large : 1 ≤ y.length := by
    rw [length]
    exact one_le_norm_sum tangent.orthogonal unit
  refine ⟨y, added, large, moved, shape, ?_⟩
  rw [Tensor.toVector_quotient, vector, norm_smul, ← length, norm_inv, Real.norm_eq_abs,
    abs_of_pos (by linarith)]
  exact inv_mul_cancel₀ (by linarith)

theorem exp_of_tangent (outside : 1 ≤ ‖x.toVector [m + 1]‖ ^ 2) :
    ∃ q, exp x v = .ok q ∧ q.shape = [m + 1] ∧ 1 ≤ ‖q.toVector [m + 1]‖ ^ 2 ∧
      ‖q.toVector [m + 1]‖ ^ 2 ≤ ‖x.toVector [m + 1]‖ ^ 2 + Tolerance.epsilon ^ 2 := by
  obtain ⟨q, moved, shape, vector⟩ := exp_of_shape tangent.point tangent.vector
  refine ⟨q, moved, shape, ?_⟩
  rw [vector]
  split
  next short =>
    -- Without a division, the square of a short step is added.
    rw [norm_sum_sq tangent.orthogonal]
    have le := pow_le_pow_left₀ (norm_nonneg (v.toVector [m + 1])) short.le 2
    exact ⟨by nlinarith [sq_nonneg ‖v.toVector [m + 1]‖], by linarith⟩
  next long =>
    have moving : v.toVector [m + 1] ≠ 0 :=
      norm_ne_zero_iff.mp (Tolerance.epsilon_pos.trans_le (not_lt.mp long)).ne'
    -- Along a great circle, what the point exceeds the sphere by can only shrink.
    rw [norm_circle_sq tangent.orthogonal moving]
    have circle := Real.sin_sq_add_cos_sq ‖v.toVector [m + 1]‖
    have shrinks := Real.cos_sq_le_one ‖v.toVector [m + 1]‖
    constructor
    · nlinarith [sq_nonneg (Real.cos ‖v.toVector [m + 1]‖)]
    · nlinarith [sq_nonneg (Tolerance.epsilon : ℝ)]

end Tangent

end Sphere

end ManifoldOpt
