import Mathlib.Tactic.Module
import ManifoldOpt.Manifold.Basic
import ManifoldOpt.Proofs.Manifold.Geodesic

/-!
Reflections on the sphere. With exact scalars the reflection of a point at another one is the point
symmetry of the sphere, which keeps the component along the centre and turns the rest around, but
where the points are almost antipodal: there the logarithm is as short as between close points, so
that the result stays next to the centre instead of going to the other side.
-/

set_option autoImplicit false

namespace ManifoldOpt

open InnerProductGeometry
open scoped RealInnerProductSpace

section Symmetry

variable {E : Type*} [NormedAddCommGroup E] [InnerProductSpace ℝ E] {p x : E} (hp : ‖p‖ = 1)

include hp

theorem inner_symmetric : ⟪p, (2 * ⟪p, x⟫) • p - x⟫ = ⟪p, x⟫ := by
  rw [inner_sub_right, real_inner_smul_right, real_inner_self_eq_norm_sq, hp]
  ring

theorem norm_symmetric : ‖(2 * ⟪p, x⟫) • p - x‖ = ‖x‖ := by
  have square : ‖(2 * ⟪p, x⟫) • p - x‖ ^ 2 = ‖x‖ ^ 2 := by
    rw [norm_sub_sq_real, real_inner_smul_left, norm_smul, hp, mul_one, Real.norm_eq_abs, sq_abs]
    ring
  exact (sq_eq_sq₀ (norm_nonneg _) (norm_nonneg _)).mp square

theorem inner_beside : ⟪p, p - (x - ⟪p, x⟫ • p)⟫ = 1 := by
  rw [inner_sub_right, inner_tangential hp, real_inner_self_eq_norm_sq, hp]
  norm_num

variable (hx : ‖x‖ = 1)

include hx

theorem one_sub_inner_nonneg : 0 ≤ 1 - ⟪p, x⟫ := by
  have bounded := real_inner_le_norm p x
  rw [hp, hx, one_mul] at bounded
  exact sub_nonneg.mpr bounded

theorem one_sub_inner_le (acute : 0 ≤ ⟪p, x⟫) : 1 - ⟪p, x⟫ ≤ ‖x - ⟪p, x⟫ • p‖ ^ 2 := by
  have nonneg := one_sub_inner_nonneg hp hx
  rw [norm_tangential_sq hp, hx]
  nlinarith

theorem norm_beside_sub_symmetric :
    ‖p - (x - ⟪p, x⟫ • p) - ((2 * ⟪p, x⟫) • p - x)‖ = 1 - ⟪p, x⟫ := by
  have difference : p - (x - ⟪p, x⟫ • p) - ((2 * ⟪p, x⟫) • p - x) = (1 - ⟪p, x⟫) • p := by module
  rw [difference, norm_smul, hp, mul_one, Real.norm_of_nonneg (one_sub_inner_nonneg hp hx)]

end Symmetry

namespace Sphere

variable {n : ℕ} {p x : Tensor ℝ} {method : Literal ℝ}

inductive WalksGeodesics : Literal ℝ → Prop
  | default : WalksGeodesics .none
  | exponential : WalksGeodesics (.retraction .exponential)

theorem reflect_eq_exp (walks : WalksGeodesics method) {v : Tensor ℝ}
    (taken : log p x = .ok v) : reflect (sphere n) p x method = exp p (v.scale (-1)) := by
  have retracted : reflect (sphere n) p x method =
      (sphere n).retract p (v.scale (-1)) method := by
    change log p x >>= _ = _
    rw [taken]
    rfl
  rw [retracted]
  cases walks with
  | default => rfl
  | exponential => rfl

theorem reflect_of_narrow (walks : WalksGeodesics method) (hp : p.shape = [n + 1])
    (hx : x.shape = [n + 1]) (narrow : ‖x.toVector [n + 1] -
      ⟪p.toVector [n + 1], x.toVector [n + 1]⟫ • p.toVector [n + 1]‖ < Tolerance.epsilon) :
    ∃ q, reflect (sphere n) p x method = .ok q ∧ q.shape = [n + 1] ∧
      q.toVector [n + 1] = p.toVector [n + 1] - (x.toVector [n + 1] -
        ⟪p.toVector [n + 1], x.toVector [n + 1]⟫ • p.toVector [n + 1]) := by
  obtain ⟨v, t, taken, hv, tangential, direction⟩ := log_of_shape hp hx
  rw [← tangential] at narrow ⊢
  rw [stretch, if_pos narrow, one_smul] at direction
  have back : (v.scale (-1)).toVector [n + 1] = -t := by
    rw [Tensor.toVector_scale, direction, neg_one_smul]
  obtain ⟨q, moved, hq, vector⟩ := exp_of_shape hp (v := v.scale (-1)) hv
  rw [back, norm_neg, if_pos narrow, ← sub_eq_add_neg] at vector
  exact ⟨q, (reflect_eq_exp walks taken).trans moved, hq, vector⟩

theorem reflect_of_wide (walks : WalksGeodesics method) (hp : Point n p) (hx : Point n x)
    (wide : Tolerance.epsilon ≤ Real.sin (arc n p x)) :
    ∃ q, reflect (sphere n) p x method = .ok q ∧ q.shape = [n + 1] ∧
      q.toVector [n + 1] = (2 * ⟪p.toVector [n + 1], x.toVector [n + 1]⟫) • p.toVector [n + 1] -
        x.toVector [n + 1] := by
  obtain ⟨v, taken, tangent, length, direction⟩ := log_of_points hp hx wide
  obtain ⟨q, moved, hq, vector⟩ := exp_of_shape hp.shape (v := v.scale (-1)) tangent.vector
  have far : Tolerance.epsilon ≤ arc n p x := wide.trans (Real.sin_le (angle_nonneg _ _))
  have nonzero : arc n p x ≠ 0 := (Tolerance.epsilon_pos.trans_le far).ne'
  refine ⟨q, (reflect_eq_exp walks taken).trans moved, hq, ?_⟩
  rw [Tensor.toVector_scale, neg_one_smul, norm_neg, length, if_neg (not_lt.mpr far), smul_neg,
    smul_neg, smul_comm (Real.sin _), direction, inv_smul_smul₀ nonzero, cos_arc hp hx] at vector
  rw [vector]
  module

/-- Points on opposite sides of the sphere, with a sine that counts as vanishing. -/
def NearlyAntipodal (n : ℕ) (p x : Tensor ℝ) : Prop :=
  Real.cos (arc n p x) < 0 ∧ Real.sin (arc n p x) < Tolerance.epsilon

theorem atan2_one_le {s : ℝ} (nonneg : 0 ≤ s) : 0 ≤ Scalar.atan2 s 1 ∧ Scalar.atan2 s 1 ≤ 2 * s := by
  let z : ℂ := ⟨1, s⟩
  have above : 0 ≤ z.arg := Complex.arg_nonneg_iff.mpr nonneg
  have acute : z.arg ≤ Real.pi / 2 := Complex.arg_le_pi_div_two_iff.mpr (.inl zero_le_one)
  have long : 1 ≤ ‖z‖ := (le_abs_self _).trans (Complex.abs_re_le_norm z)
  have sine : Real.sin z.arg ≤ s := by
    rw [Complex.sin_arg]
    exact div_le_self nonneg long
  exact ⟨above, (le_two_mul_sin above acute).trans (by linarith)⟩

section Points

variable (hp : Point n p) (hx : Point n x)

include hp hx

section SameSide

variable (acute : 0 ≤ ⟪p.toVector [n + 1], x.toVector [n + 1]⟫)

include acute

theorem arc_le_two_mul_sin : arc n p x ≤ 2 * Real.sin (arc n p x) := by
  refine le_two_mul_sin (angle_nonneg _ _) ?_
  rw [arc_of_points hp hx]
  exact Real.arccos_le_pi_div_two.mpr acute

theorem one_sub_inner_le_of_narrow (narrow : Real.sin (arc n p x) < Tolerance.epsilon) :
    1 - ⟪p.toVector [n + 1], x.toVector [n + 1]⟫ ≤ Tolerance.epsilon ^ 2 := by
  have sine := sin_arc hp hx
  have square := pow_le_pow_left₀ (sine ▸ norm_nonneg _) narrow.le 2
  rw [sine] at square
  exact (one_sub_inner_le hp.unit hx.unit acute).trans square

end SameSide

variable (walks : WalksGeodesics method)

include walks

theorem reflect_symmetric (wide : Tolerance.epsilon ≤ Real.sin (arc n p x)) :
    ∃ q, reflect (sphere n) p x method = .ok q ∧ q.shape = [n + 1] ∧
      q.toVector [n + 1] = (2 * ⟪p.toVector [n + 1], x.toVector [n + 1]⟫) • p.toVector [n + 1] -
        x.toVector [n + 1] ∧
      (sphere n).dist p q = (sphere n).dist p x ∧ reflect (sphere n) p q method = .ok x := by
  obtain ⟨q, given, hq, vector⟩ := reflect_of_wide walks hp hx wide
  have point : Point n q := ⟨hq, by rw [vector, norm_symmetric hp.unit, hx.unit]⟩
  have cosine : ⟪p.toVector [n + 1], q.toVector [n + 1]⟫ =
      ⟪p.toVector [n + 1], x.toVector [n + 1]⟫ := by rw [vector, inner_symmetric hp.unit]
  have same : arc n p q = arc n p x := by
    rw [arc_of_points hp point, cosine, arc_of_points hp hx]
  obtain ⟨r, back, hr, vector'⟩ := reflect_of_wide walks hp point (by rwa [same])
  have returned : r = x := by
    refine Tensor.eq_of_toVector hr hx.shape ?_
    rw [vector', cosine, vector, sub_sub_cancel]
  refine ⟨q, given, hq, vector, ?_, returned ▸ back⟩
  rw [dist_of_points hp point, same, dist_of_points hp hx]

theorem reflect_beside (narrow : Real.sin (arc n p x) < Tolerance.epsilon) :
    ∃ q r d, reflect (sphere n) p x method = .ok q ∧ q.shape = [n + 1] ∧
      q.toVector [n + 1] = p.toVector [n + 1] - (x.toVector [n + 1] -
        ⟪p.toVector [n + 1], x.toVector [n + 1]⟫ • p.toVector [n + 1]) ∧
      (sphere n).dist p q = .ok (.scalar d) ∧ 0 ≤ d ∧ d ≤ 2 * Real.sin (arc n p x) ∧
      reflect (sphere n) p q method = .ok r ∧ r.shape = [n + 1] ∧
      r.toVector [n + 1] = x.toVector [n + 1] +
        (1 - ⟪p.toVector [n + 1], x.toVector [n + 1]⟫) • p.toVector [n + 1] := by
  have sine := sin_arc hp hx
  obtain ⟨q, given, hq, vector⟩ := reflect_of_narrow walks hp.shape hx.shape (sine ▸ narrow)
  have cosine : ⟪p.toVector [n + 1], q.toVector [n + 1]⟫ = 1 := by
    rw [vector, inner_beside hp.unit]
  -- Seen from the centre, the result is as far off the axis as the point, on the other side.
  have across : q.toVector [n + 1] -
      ⟪p.toVector [n + 1], q.toVector [n + 1]⟫ • p.toVector [n + 1] = -(x.toVector [n + 1] -
        ⟪p.toVector [n + 1], x.toVector [n + 1]⟫ • p.toVector [n + 1]) := by
    rw [cosine, one_smul, vector]
    abel
  obtain ⟨r, back, hr, vector'⟩ := reflect_of_narrow walks hp.shape hq
    (by rwa [across, norm_neg, ← sine])
  have measured := dist_of_shape hp.shape hq
  rw [across, norm_neg, cosine, ← sine] at measured
  obtain ⟨above, small⟩ := atan2_one_le (sin_angle_nonneg (p.toVector [n + 1]) (x.toVector [n + 1]))
  refine ⟨q, r, _, given, hq, vector, measured, above, small, back, hr, ?_⟩
  rw [vector', across]
  module

end Points

/-- Up to rounding by the tolerance, the reflection is the point symmetry if and only if the points are
not nearly antipodal, and then it keeps the distance to the centre and is undone by another one.
Between nearly antipodal points it gives a point next to the centre. -/
theorem reflect_near_symmetry {n : ℕ} {p x : Tensor ℝ} {method : Literal ℝ}
    (walks : WalksGeodesics method) (hp : Point n p) (hx : Point n x) :
    ∃ q, reflect (sphere n) p x method = .ok q ∧ q.shape = [n + 1] ∧
      (‖q.toVector [n + 1] - ((2 * ⟪p.toVector [n + 1], x.toVector [n + 1]⟫) • p.toVector [n + 1] -
        x.toVector [n + 1])‖ ≤ 1e-9 ↔ ¬ NearlyAntipodal n p x) ∧
      (¬ NearlyAntipodal n p x →
        (∃ d d', (sphere n).dist p q = .ok (.scalar d) ∧ (sphere n).dist p x = .ok (.scalar d') ∧
          |d - d'| ≤ 1e-9) ∧
        ∃ r, reflect (sphere n) p q method = .ok r ∧ r.shape = [n + 1] ∧
          ‖r.toVector [n + 1] - x.toVector [n + 1]‖ ≤ 1e-9) ∧
      (NearlyAntipodal n p x → ‖q.toVector [n + 1] - p.toVector [n + 1]‖ < Tolerance.epsilon) := by
  have distance := dist_of_points hp hx
  by_cases wide : Tolerance.epsilon ≤ Real.sin (arc n p x)
  · obtain ⟨q, given, hq, vector, kept, back⟩ := reflect_symmetric hp hx walks wide
    have apart : ¬ NearlyAntipodal n p x := fun near => not_lt.mpr wide near.2
    refine ⟨q, given, hq, ?_, fun _ => ⟨?_, x, back, hx.shape, ?_⟩, fun near => absurd near apart⟩
    · rw [vector, sub_self, norm_zero]
      exact iff_of_true (by norm_num) apart
    · exact ⟨_, _, kept.trans distance, distance, by norm_num⟩
    · rw [sub_self, norm_zero]
      norm_num
  · have narrow := not_le.mp wide
    obtain ⟨q, r, d, given, hq, vector, measured, above, small, back, hr, vector'⟩ :=
      reflect_beside hp hx walks narrow
    have sameSide : ¬ NearlyAntipodal n p x ↔ 0 ≤ ⟪p.toVector [n + 1], x.toVector [n + 1]⟫ := by
      rw [NearlyAntipodal, cos_arc hp hx, and_iff_left narrow, not_lt]
    -- On the centre's side, an error of second order is left.
    have lacking (acute : 0 ≤ ⟪p.toVector [n + 1], x.toVector [n + 1]⟫) :
        1 - ⟪p.toVector [n + 1], x.toVector [n + 1]⟫ ≤ 1e-9 :=
      (one_sub_inner_le_of_narrow hp hx acute narrow).trans (by norm_num [Tolerance.epsilon])
    refine ⟨q, given, hq, ?_, fun apart => ⟨⟨d, _, measured, distance, ?_⟩, r, back, hr, ?_⟩, ?_⟩
    · rw [vector, norm_beside_sub_symmetric hp.unit hx.unit, sameSide]
      refine ⟨fun small => ?_, lacking⟩
      norm_num at small
      linarith
    · have nonneg : 0 ≤ arc n p x := angle_nonneg _ _
      have chord := arc_le_two_mul_sin hp hx (sameSide.mp apart)
      have small : 2 * (Tolerance.epsilon : ℝ) ≤ 1e-9 := by norm_num [Tolerance.epsilon]
      exact abs_sub_le_iff.mpr ⟨by linarith, by linarith⟩
    · rw [vector', add_sub_cancel_left, norm_smul, hp.unit, mul_one,
        Real.norm_of_nonneg (one_sub_inner_nonneg hp.unit hx.unit)]
      exact lacking (sameSide.mp apart)
    · intro _
      rwa [vector, sub_sub_cancel_left, norm_neg, ← sin_arc hp hx]

theorem reflect_near_symmetry_obtuse :
    ∃ q r, reflect (sphere 2) (.vector [(1 : ℝ), 0, 0]) (.vector [-(3 / 5), 4 / 5, 0]) .none =
        .ok q ∧
      ‖q.toVector [2 + 1] - ((2 * ⟪(Tensor.vector [1, 0, 0]).toVector [2 + 1],
        (Tensor.vector [-(3 / 5), 4 / 5, 0]).toVector [2 + 1]⟫) •
        (Tensor.vector [1, 0, 0]).toVector [2 + 1] -
        (Tensor.vector [-(3 / 5), 4 / 5, 0]).toVector [2 + 1])‖ ≤ 1e-9 ∧
      reflect (sphere 2) (.vector [1, 0, 0]) q .none = .ok r ∧
      ‖r.toVector [2 + 1] - (Tensor.vector [-(3 / 5), 4 / 5, 0]).toVector [2 + 1]‖ ≤ 1e-9 := by
  have hp : Point 2 (.vector [1, 0, 0]) := point_vector rfl (by simp)
  have hx : Point 2 (.vector [-(3 / 5), 4 / 5, 0]) := point_vector rfl (by norm_num)
  have apart : ¬ NearlyAntipodal 2 (.vector [1, 0, 0]) (.vector [-(3 / 5), 4 / 5, 0]) := by
    rintro ⟨-, narrow⟩
    have square : (1 : ℝ) - (-(3 / 5)) ^ 2 = (4 / 5) ^ 2 := by norm_num
    rw [arc_vector hp hx (c := -(3 / 5)) (by norm_num), Real.sin_arccos, square,
      Real.sqrt_sq (by norm_num)] at narrow
    norm_num [Tolerance.epsilon] at narrow
  obtain ⟨q, given, -, near, kept, -⟩ := reflect_near_symmetry .default hp hx
  obtain ⟨-, r, back, -, returned⟩ := kept apart
  exact ⟨q, r, given, near.mpr apart, back, returned⟩

/-- The opposite of the centre, up to a fraction of the tolerance, is not sent to the other side. -/
theorem reflect_misses_symmetry :
    Point 1 (.vector [(1 : ℝ), 0]) ∧
    Point 1 (.vector [(1 - 1e22) / (1e22 + 1), 2e11 / (1e22 + 1)]) ∧
    ∃ q, reflect (sphere 1) (.vector [(1 : ℝ), 0])
        (.vector [(1 - 1e22) / (1e22 + 1), 2e11 / (1e22 + 1)]) (.retraction .exponential) = .ok q ∧
      1 < ‖q.toVector [1 + 1] - ((2 * ⟪(Tensor.vector [1, 0]).toVector [1 + 1],
        (Tensor.vector [(1 - 1e22) / (1e22 + 1), 2e11 / (1e22 + 1)]).toVector [1 + 1]⟫) •
        (Tensor.vector [1, 0]).toVector [1 + 1] -
        (Tensor.vector [(1 - 1e22) / (1e22 + 1), 2e11 / (1e22 + 1)]).toVector [1 + 1])‖ := by
  have hp : Point 1 (.vector [1, 0]) := point_vector rfl (by simp)
  have hx : Point 1 (.vector [(1 - 1e22) / (1e22 + 1), 2e11 / (1e22 + 1)]) :=
    point_vector rfl (by norm_num)
  have cosine := @Tensor.inner_vector 2 [1, 0] [(1 - 1e22) / (1e22 + 1), 2e11 / (1e22 + 1)] rfl rfl
  have square := norm_tangential_sq hp.unit
    ((Tensor.vector [(1 - 1e22) / (1e22 + 1), 2e11 / (1e22 + 1)]).toVector [1 + 1])
  rw [hx.unit, cosine] at square
  have narrow := lt_of_pow_lt_pow_left₀ 2 Tolerance.epsilon_pos.le (square.trans_lt (by
    norm_num [Tolerance.epsilon]))
  rw [← cosine] at narrow
  obtain ⟨q, given, -, vector⟩ := reflect_of_narrow .exponential hp.shape hx.shape narrow
  refine ⟨hp, hx, q, given, ?_⟩
  rw [vector, norm_beside_sub_symmetric hp.unit hx.unit, cosine]
  norm_num

end Sphere

end ManifoldOpt
