import Mathlib.Analysis.SpecialFunctions.Trigonometric.Bounds
import Mathlib.Geometry.Euclidean.Angle.Unoriented.Basic
import ManifoldOpt.Proofs.Linear.Coordinates
import ManifoldOpt.Proofs.Manifold.Sphere

set_option autoImplicit false

namespace ManifoldOpt

open InnerProductGeometry
open scoped RealInnerProductSpace

section Angle

variable {E : Type*} [NormedAddCommGroup E] [InnerProductSpace ℝ E] {x y v : E} (unit : ‖x‖ = 1)

include unit

theorem inner_tangential (y : E) : ⟪x, y - ⟪x, y⟫ • x⟫ = 0 := by
  rw [inner_sub_right, real_inner_smul_right, real_inner_self_eq_norm_sq, unit]
  ring

theorem norm_tangential_sq (y : E) : ‖y - ⟪x, y⟫ • x‖ ^ 2 = ‖y‖ ^ 2 - ⟪x, y⟫ ^ 2 := by
  rw [norm_sub_sq_real, real_inner_smul_right, real_inner_comm x y, norm_smul, unit, mul_one,
    Real.norm_eq_abs, sq_abs]
  ring

theorem norm_tangential (other : ‖y‖ = 1) : ‖y - ⟪x, y⟫ • x‖ = Real.sin (angle x y) := by
  have cosine := inner_eq_cos_angle_of_norm_eq_one unit other
  have square : ‖y - ⟪x, y⟫ • x‖ ^ 2 = Real.sin (angle x y) ^ 2 := by
    rw [norm_tangential_sq unit, other, cosine, Real.sin_sq, one_pow]
  have nonneg := sin_angle_nonneg x y
  rwa [sq_eq_sq₀ (norm_nonneg _) nonneg] at square

variable (orthogonal : ⟪x, v⟫ = 0)

include orthogonal

theorem inner_circle (a b : ℝ) : ⟪x, a • x + b • v⟫ = a := by
  rw [inner_add_right, real_inner_smul_right, real_inner_smul_right, orthogonal,
    real_inner_self_eq_norm_sq, unit]
  ring

variable (moving : v ≠ 0)

include moving

theorem norm_circle : ‖Real.cos ‖v‖ • x + Real.sin ‖v‖ • ‖v‖⁻¹ • v‖ = 1 := by
  have square := norm_circle_sq orthogonal moving
  rw [unit, one_pow, mul_one, Real.cos_sq_add_sin_sq] at square
  exact (pow_eq_one_iff_of_nonneg (norm_nonneg _) two_ne_zero).mp square

theorem angle_circle (half : ‖v‖ ≤ Real.pi) :
    angle x (Real.cos ‖v‖ • x + Real.sin ‖v‖ • ‖v‖⁻¹ • v) = ‖v‖ := by
  have cosine : ⟪x, Real.cos ‖v‖ • x + Real.sin ‖v‖ • ‖v‖⁻¹ • v⟫ = Real.cos ‖v‖ := by
    rw [smul_smul]
    exact inner_circle unit orthogonal _ _
  rw [angle, cosine, unit, norm_circle unit orthogonal moving, mul_one, div_one,
    Real.arccos_cos (norm_nonneg v) half]

end Angle

namespace Tensor

variable {shape : Shape} {x y : Tensor ℝ}

theorem eq_of_toVector (hx : x.shape = shape) (hy : y.shape = shape)
    (same : x.toVector shape = y.toVector shape) : x = y :=
  ext_column hx hy (funext fun i => congrArg (· i) same)

theorem toVector_eq_zero (vanishes : x.column shape.size = 0) : x.toVector shape = 0 := by
  ext i
  exact congrFun vanishes i

theorem column_eq_toVector (m : ℕ) (x : Tensor ℝ) :
    x.column m = fun i => x.toVector [m] (Fin.cast (Shape.size_singleton m).symm i) := rfl

theorem dot_toVector {m : ℕ} (hx : x.shape = [m]) (hy : y.shape = [m]) :
    x.dot y = .ok (.scalar ⟪x.toVector [m], y.toVector [m]⟫) := by
  simp only [dot, hx, hy, List.reverse_singleton, if_true, inner_toVector hx hy, sumProducts_real]

theorem inner_vector {m : ℕ} {a b : List ℝ} (ha : a.length = m) (hb : b.length = m) :
    ⟪(vector a).toVector [m], (vector b).toVector [m]⟫ = (List.zipWith (· * ·) a b).sum :=
  inner_toVector (congrArg (fun k => [k]) ha) (congrArg (fun k => [k]) hb)

end Tensor

namespace Sphere

variable {n : ℕ} {x y v : Tensor ℝ}

structure Point (n : ℕ) (x : Tensor ℝ) : Prop where
  shape : x.shape = [n + 1]
  unit : ‖x.toVector [n + 1]‖ = 1

theorem point_iff_isPoint (hx : x.shape = [n + 1]) :
    Point n x ↔ (sphere n).isPoint 0 x = .ok true := by
  have test : (sphere n).isPoint 0 x = .ok (decide (|x.length - 1| ≤ 0)) := by
    rw [← Scalar.abs_real]
    rfl
  rw [test, Except.ok.injEq, decide_eq_true_eq, abs_nonpos_iff, sub_eq_zero,
    Tensor.length_toVector hx]
  exact ⟨Point.unit, fun unit => ⟨hx, unit⟩⟩

theorem point_vector {entries : List ℝ} (count : entries.length = n + 1)
    (squares : (List.zipWith (· * ·) entries entries).sum = 1) : Point n (.vector entries) := by
  refine ⟨congrArg (fun k => [k]) count, ?_⟩
  rw [← Tensor.inner_vector count count, real_inner_self_eq_norm_sq] at squares
  exact (pow_eq_one_iff_of_nonneg (norm_nonneg _) two_ne_zero).mp squares

theorem tangent_vector {a b : List ℝ} (ha : a.length = n + 1) (hb : b.length = n + 1)
    (products : (List.zipWith (· * ·) a b).sum = 0) : Tangent n (.vector a) (.vector b) :=
  ⟨congrArg (fun k => [k]) ha, congrArg (fun k => [k]) hb, (Tensor.inner_vector ha hb).trans products⟩

noncomputable def arc (n : ℕ) (x y : Tensor ℝ) : ℝ :=
  angle (x.toVector [n + 1]) (y.toVector [n + 1])

theorem arc_comm (n : ℕ) (x y : Tensor ℝ) : arc n x y = arc n y x := angle_comm _ _

theorem norm_of_shape (hv : v.shape = [n + 1]) :
    (sphere n).norm x v = .ok (.scalar ‖v.toVector [n + 1]‖) := by
  refine Outcome.bind_eq_ok.mpr ⟨_, Tensor.dot_toVector hv hv, ?_⟩
  rw [real_inner_self_eq_norm_sq]
  change Except.ok (Tensor.scalar √(‖v.toVector [n + 1]‖ ^ 2)) = _
  rw [Real.sqrt_sq (norm_nonneg _)]

theorem split_of_shape (hx : x.shape = [n + 1]) (hy : y.shape = [n + 1]) :
    ∃ t, split x y = .ok (.scalar ⟪x.toVector [n + 1], y.toVector [n + 1]⟫, t) ∧
      t.shape = [n + 1] ∧ t.toVector [n + 1] = y.toVector [n + 1] -
        ⟪x.toVector [n + 1], y.toVector [n + 1]⟫ • x.toVector [n + 1] := by
  have axes : x.shape ≠ [] := by simp [hx]
  obtain ⟨t, removed, shape, vector⟩ := Tensor.sub_of_shape hy
    (y := x.scale ⟪x.toVector [n + 1], y.toVector [n + 1]⟫) hx
  refine ⟨t, ?_, shape, by rw [vector, Tensor.toVector_scale]⟩
  refine Outcome.bind_eq_ok.mpr ⟨_, Tensor.dot_toVector hx hy, ?_⟩
  refine Outcome.bind_eq_ok.mpr ⟨_, Tensor.scalar_mul axes _, ?_⟩
  exact Outcome.bind_eq_ok.mpr ⟨t, removed, rfl⟩

theorem dist_of_shape (hx : x.shape = [n + 1]) (hy : y.shape = [n + 1]) :
    dist x y = .ok (.scalar (Scalar.atan2 ‖y.toVector [n + 1] -
      ⟪x.toVector [n + 1], y.toVector [n + 1]⟫ • x.toVector [n + 1]‖
      ⟪x.toVector [n + 1], y.toVector [n + 1]⟫)) := by
  obtain ⟨t, parted, ht, vector⟩ := split_of_shape hx hy
  rw [← vector, ← Tensor.length_toVector ht]
  exact Outcome.bind_eq_ok.mpr ⟨_, parted, rfl⟩

/-- What the logarithm multiplies the part of a point orthogonal to another one with: the angle over
its sine, unless that is too small to divide by. -/
noncomputable def stretch (sine cosine : ℝ) : ℝ :=
  if sine < Tolerance.epsilon then 1 else Scalar.atan2 sine cosine / sine

theorem log_of_shape (hx : x.shape = [n + 1]) (hy : y.shape = [n + 1]) :
    ∃ v t, log x y = .ok v ∧ v.shape = [n + 1] ∧
      t = y.toVector [n + 1] -
        ⟪x.toVector [n + 1], y.toVector [n + 1]⟫ • x.toVector [n + 1] ∧
      v.toVector [n + 1] = stretch ‖t‖ ⟪x.toVector [n + 1], y.toVector [n + 1]⟫ • t := by
  obtain ⟨t, parted, ht, vector⟩ := split_of_shape hx hy
  have axes : t.shape ≠ [] := by simp [ht]
  let angle := Scalar.atan2 t.length ⟪x.toVector [n + 1], y.toVector [n + 1]⟫
  let guarded := Scalar.maximum t.length Tolerance.epsilon
  let scaled := (t.scale angle).map (Scalar.quotient · guarded)
  have taken : log x y = Tensor.select (decide (t.length < Tolerance.epsilon)) t scaled := by
    unfold log
    rw [parted]
    change (Tensor.scalar angle).mul t >>= _ = _
    rw [Tensor.scalar_mul axes]
    rfl
  have chosen : ∃ v, log x y = .ok v ∧ v.shape = [n + 1] ∧ v.toVector [n + 1] =
      stretch t.length ⟪x.toVector [n + 1], y.toVector [n + 1]⟫ • t.toVector [n + 1] := by
    unfold stretch
    rw [taken]
    by_cases short : t.length < Tolerance.epsilon
    · simp only [decide_eq_true short, if_pos short, one_smul]
      exact ⟨t, Tensor.pointwise_left rfl, ht, rfl⟩
    · have same : guarded = t.length := by simp [guarded, Scalar.maximum, not_lt.mp short]
      simp only [decide_eq_false short, if_neg short]
      refine ⟨scaled, Tensor.pointwise_right rfl, ht, ?_⟩
      rw [Tensor.toVector_quotient, Tensor.toVector_scale, smul_smul, same, div_eq_inv_mul]
  obtain ⟨v, given, hv, direction⟩ := chosen
  exact ⟨v, t.toVector [n + 1], given, hv, vector, by rw [direction, Tensor.length_toVector ht]⟩

theorem atan2_sin_cos {θ : ℝ} (nonneg : 0 ≤ θ) (half : θ ≤ Real.pi) :
    Scalar.atan2 (Real.sin θ) (Real.cos θ) = θ := by
  change Complex.arg ⟨Real.cos θ, Real.sin θ⟩ = θ
  rw [Complex.mk_eq_add_mul_I, Complex.ofReal_cos, Complex.ofReal_sin]
  exact Complex.arg_cos_add_sin_mul_I ⟨by linarith [Real.pi_pos], half⟩

theorem le_two_mul_sin {θ : ℝ} (nonneg : 0 ≤ θ) (acute : θ ≤ Real.pi / 2) : θ ≤ 2 * Real.sin θ := by
  have chord := Real.mul_le_sin nonneg acute
  have slope : 1 / 2 ≤ 2 / Real.pi := by
    rw [div_le_div_iff₀ two_pos Real.pi_pos]
    linarith [Real.pi_le_four]
  linarith [mul_le_mul_of_nonneg_right slope nonneg]

section Points

variable (hx : Point n x) (hy : Point n y)

include hx hy

theorem cos_arc : Real.cos (arc n x y) = ⟪x.toVector [n + 1], y.toVector [n + 1]⟫ :=
  (inner_eq_cos_angle_of_norm_eq_one hx.unit hy.unit).symm

theorem sin_arc : Real.sin (arc n x y) = ‖y.toVector [n + 1] -
    ⟪x.toVector [n + 1], y.toVector [n + 1]⟫ • x.toVector [n + 1]‖ :=
  (norm_tangential hx.unit hy.unit).symm

theorem arc_of_points : arc n x y = Real.arccos ⟪x.toVector [n + 1], y.toVector [n + 1]⟫ := by
  rw [arc, angle, hx.unit, hy.unit, mul_one, div_one]

theorem dist_of_points : (sphere n).dist x y = .ok (.scalar (arc n x y)) := by
  have measured : (sphere n).dist x y = _ := dist_of_shape hx.shape hy.shape
  rw [measured, ← sin_arc hx hy, ← cos_arc hx hy]
  exact congrArg (fun θ => Except.ok (Tensor.scalar θ))
    (atan2_sin_cos (angle_nonneg _ _) (angle_le_pi _ _))

theorem log_of_points (apart : Tolerance.epsilon ≤ Real.sin (arc n x y)) :
    ∃ v, log x y = .ok v ∧ Tangent n x v ∧ ‖v.toVector [n + 1]‖ = arc n x y ∧
      Real.sin (arc n x y) • v.toVector [n + 1] =
        arc n x y • (y.toVector [n + 1] - Real.cos (arc n x y) • x.toVector [n + 1]) := by
  obtain ⟨v, t, taken, hv, tangential, direction⟩ := log_of_shape hx.shape hy.shape
  have nonneg : 0 ≤ arc n x y := angle_nonneg _ _
  have positive : 0 < Real.sin (arc n x y) := Tolerance.epsilon_pos.trans_le apart
  have sine : ‖t‖ = Real.sin (arc n x y) := by rw [sin_arc hx hy, tangential]
  -- The sine is large enough to be divided by as it is.
  rw [sine, ← cos_arc hx hy, stretch, if_neg (not_lt.mpr apart),
    atan2_sin_cos nonneg (angle_le_pi _ _)] at direction
  refine ⟨v, taken, ⟨hx.shape, hv, ?_⟩, ?_, ?_⟩
  · rw [direction, real_inner_smul_right, tangential, inner_tangential hx.unit, mul_zero]
  · rw [direction, norm_smul, sine, Real.norm_of_nonneg (by positivity),
      div_mul_cancel₀ _ positive.ne']
  · rw [direction, smul_smul, mul_div_cancel₀ _ positive.ne', tangential, cos_arc hx hy]

end Points

theorem arc_vector {a b : List ℝ} {c : ℝ} (ha : Point n (.vector a)) (hb : Point n (.vector b))
    (products : (List.zipWith (· * ·) a b).sum = c) :
    arc n (.vector a) (.vector b) = Real.arccos c := by
  rw [arc_of_points ha hb, ← products]
  exact congrArg Real.arccos (Tensor.inner_toVector ha.shape hb.shape)

/-- Away from equal and from antipodal points, the logarithm is a tangent vector as long as the
points are apart, from which the exponential map leads back to the other point. Conversely, the end
of an arc of less than a half turn is a point that far away, whose logarithm is the velocity. -/
theorem exp_log_inverse {n : ℕ} {x : Tensor ℝ} (hx : Point n x) :
    (∀ {y}, Point n y → Tolerance.epsilon ≤ Real.sin (arc n x y) →
      ∃ v, (sphere n).log x y = .ok v ∧ Tangent n x v ∧ (sphere n).exp x v = .ok y ∧
        (sphere n).norm x v = (sphere n).dist x y ∧
        (sphere n).dist x y = .ok (.scalar (arc n x y))) ∧
    ∀ {v}, Tangent n x v → Tolerance.epsilon ≤ ‖v.toVector [n + 1]‖ →
      ‖v.toVector [n + 1]‖ < Real.pi → Tolerance.epsilon ≤ Real.sin ‖v.toVector [n + 1]‖ →
      ∃ y, (sphere n).exp x v = .ok y ∧ Point n y ∧ (sphere n).log x y = .ok v ∧
        (sphere n).dist x y = .ok (.scalar ‖v.toVector [n + 1]‖) ∧
        (sphere n).norm x v = .ok (.scalar ‖v.toVector [n + 1]‖) := by
  have epsilon : (0 : ℝ) < Tolerance.epsilon := by norm_num [Tolerance.epsilon]
  constructor
  · intro y hy apart
    obtain ⟨v, taken, tangent, length, direction⟩ := log_of_points hx hy apart
    obtain ⟨q, moved, shape, vector⟩ := exp_of_shape hx.shape tangent.vector
    have nonneg : 0 ≤ arc n x y := angle_nonneg _ _
    have wide : Tolerance.epsilon ≤ arc n x y := apart.trans (Real.sin_le nonneg)
    -- The sine of the angle, divided by it, undoes what the logarithm multiplies with.
    have back : q = y := by
      refine Tensor.eq_of_toVector shape hy.shape ?_
      rw [vector, length, if_neg (not_lt.mpr wide), smul_comm (Real.sin _), direction,
        inv_smul_smul₀ (epsilon.trans_le wide).ne', add_sub_cancel]
    have distance := dist_of_points hx hy
    refine ⟨v, taken, tangent, back ▸ moved, ?_, distance⟩
    rw [norm_of_shape tangent.vector, length, distance]
  · intro v tangent long half wide
    obtain ⟨y, moved, shape, vector⟩ := exp_of_shape hx.shape tangent.vector
    rw [if_neg (not_lt.mpr long)] at vector
    have moving : v.toVector [n + 1] ≠ 0 := norm_ne_zero_iff.mp (epsilon.trans_le long).ne'
    have hy : Point n y :=
      ⟨shape, by rw [vector, norm_circle hx.unit tangent.orthogonal moving]⟩
    have angle : arc n x y = ‖v.toVector [n + 1]‖ := by
      rw [arc, vector, angle_circle hx.unit tangent.orthogonal moving half.le]
    obtain ⟨u, taken, along, -, direction⟩ := log_of_points hx hy (by rwa [angle])
    -- Both are the part of the end orthogonal to the start, stretched to the same length.
    have same : u = v := by
      refine Tensor.eq_of_toVector along.vector tangent.vector ?_
      rw [angle, vector, add_sub_cancel_left, smul_comm ‖_‖ (Real.sin _),
        smul_inv_smul₀ (epsilon.trans_le long).ne'] at direction
      exact smul_right_injective _ (epsilon.trans_le wide).ne' direction
    refine ⟨y, moved, hy, same ▸ taken, ?_, norm_of_shape tangent.vector⟩
    rw [dist_of_points hx hy, angle]

theorem exp_log_obtuse :
    (∃ v, (sphere 1).log (.vector [(1 : ℝ), 0]) (.vector [-(3 / 5), 4 / 5]) = .ok v ∧
      (sphere 1).exp (.vector [1, 0]) v = .ok (.vector [-(3 / 5), 4 / 5])) ∧
    ∃ y, (sphere 1).exp (.vector [1, 0]) (.vector [0, Real.pi - Real.pi / 6]) = .ok y ∧
      (sphere 1).log (.vector [1, 0]) y = .ok (.vector [0, Real.pi - Real.pi / 6]) := by
  have norm (a b : ℝ) : ‖(Tensor.vector [a, b]).toVector [1 + 1]‖ = √(a * a + b * b) := by
    rw [← Tensor.length_toVector (by rfl)]
    simp [Tensor.length, Tensor.vector, Tensor.total]
  have inner (a b c d : ℝ) : ⟪(Tensor.vector [a, b]).toVector [1 + 1],
      (Tensor.vector [c, d]).toVector [1 + 1]⟫ = a * c + b * d := by
    rw [Tensor.inner_toVector (by rfl) (by rfl)]
    simp [Tensor.vector]
  have hx : Point 1 (.vector [1, 0]) := ⟨rfl, by rw [norm]; norm_num⟩
  have hy : Point 1 (.vector [-(3 / 5), 4 / 5]) := ⟨rfl, by rw [norm]; norm_num⟩
  have apart : Tolerance.epsilon ≤ Real.sin (arc 1 (.vector [1, 0]) (.vector [-(3 / 5), 4 / 5])) := by
    have square : 1 - (-(3 / 5) : ℝ) ^ 2 = (4 / 5) ^ 2 := by norm_num
    rw [arc, angle, inner, hx.unit, hy.unit, Real.sin_arccos, one_mul, zero_mul, add_zero, one_mul,
      div_one, square, Real.sqrt_sq (by norm_num)]
    norm_num [Tolerance.epsilon]
  have tangent : Tangent 1 (.vector [1, 0]) (.vector [0, Real.pi - Real.pi / 6]) :=
    ⟨rfl, rfl, by rw [inner]; ring⟩
  have pi := Real.two_le_pi
  have length : ‖(Tensor.vector [0, Real.pi - Real.pi / 6]).toVector [1 + 1]‖ =
      Real.pi - Real.pi / 6 := by
    rw [norm, mul_zero, zero_add, Real.sqrt_mul_self (by linarith)]
  have long : Tolerance.epsilon ≤ Real.pi - Real.pi / 6 := by
    norm_num [Tolerance.epsilon]
    linarith
  have wide : Tolerance.epsilon ≤ Real.sin (Real.pi - Real.pi / 6) := by
    rw [Real.sin_pi_sub, Real.sin_pi_div_six]
    norm_num [Tolerance.epsilon]
  obtain ⟨there, back⟩ := exp_log_inverse hx
  obtain ⟨v, taken, -, moved, -⟩ := there hy apart
  obtain ⟨y, walked, -, logged, -⟩ := back tangent (by rwa [length]) (by rw [length]; linarith)
    (by rwa [length])
  exact ⟨⟨v, taken, moved⟩, y, walked, logged⟩

end Sphere

end ManifoldOpt
