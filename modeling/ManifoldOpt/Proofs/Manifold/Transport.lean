import Mathlib.Tactic.Module
import ManifoldOpt.Proofs.Manifold.Bundle
import ManifoldOpt.Proofs.Manifold.Geodesic

set_option autoImplicit false

namespace ManifoldOpt

open InnerProductGeometry
open scoped RealInnerProductSpace

section Rotation

variable {E : Type*} [NormedAddCommGroup E] [InnerProductSpace ℝ E]

noncomputable def rotated (x y v : E) : E := v - (⟪y, v⟫ / (1 + ⟪x, y⟫)) • (x + y)

variable {x y u v : E}

theorem rotated_smul (c : ℝ) : rotated x y (c • v) = c • rotated x y v := by
  rw [rotated, rotated, real_inner_smul_right, smul_sub, smul_smul, mul_div_assoc]

theorem one_add_inner_ne_zero (hx : ‖x‖ = 1) (hy : ‖y‖ = 1) (differ : y ≠ -x) :
    1 + ⟪x, y⟫ ≠ 0 := by
  intro vanishes
  have square : ‖y + x‖ ^ 2 = 0 := by
    rw [norm_add_sq_real, hx, hy, real_inner_comm]
    linarith
  have sum : y + x = 0 := norm_eq_zero.mp ((pow_eq_zero_iff two_ne_zero).mp square)
  exact differ (eq_neg_of_add_eq_zero_left sum)

variable (apart : 1 + ⟪x, y⟫ ≠ 0)

include apart

theorem inner_rotated (hy : ‖y‖ = 1) : ⟪y, rotated x y v⟫ = 0 := by
  rw [rotated, inner_sub_right, real_inner_smul_right, inner_add_right, real_inner_self_eq_norm_sq,
    hy, real_inner_comm x y]
  field_simp
  ring

theorem inner_rotated_rotated (hx : ‖x‖ = 1) (hy : ‖y‖ = 1) (hu : ⟪x, u⟫ = 0) (hv : ⟪x, v⟫ = 0) :
    ⟪rotated x y u, rotated x y v⟫ = ⟪u, v⟫ := by
  have sum : ⟪x + y, x + y⟫ = 2 * (1 + ⟪x, y⟫) := by
    rw [real_inner_self_eq_norm_sq, norm_add_sq_real, hx, hy]
    ring
  simp only [rotated, inner_sub_left, inner_sub_right, real_inner_smul_left, real_inner_smul_right,
    sum]
  simp only [inner_add_left, inner_add_right, hv, real_inner_comm x u, hu, real_inner_comm y u]
  field_simp
  ring

theorem rotated_rotated (hx : ‖x‖ = 1) (hv : ⟪x, v⟫ = 0) : rotated y x (rotated x y v) = v := by
  have height : ⟪x, rotated x y v⟫ = -⟪y, v⟫ := by
    rw [rotated, inner_sub_right, real_inner_smul_right, inner_add_right,
      real_inner_self_eq_norm_sq, hx, hv]
    field_simp
    ring
  rw [rotated, height, rotated, real_inner_comm x y, add_comm y x]
  module

theorem rotated_tangential (hy : ‖y‖ = 1) :
    rotated x y (y - ⟪x, y⟫ • x) = -(x - ⟪x, y⟫ • y) := by
  have height : ⟪y, y - ⟪x, y⟫ • x⟫ / (1 + ⟪x, y⟫) = 1 - ⟪x, y⟫ := by
    rw [inner_sub_right, real_inner_smul_right, real_inner_self_eq_norm_sq, hy, real_inner_comm x y]
    field_simp
    ring
  rw [rotated, height]
  module

end Rotation

section Projection

variable {E : Type*} [NormedAddCommGroup E] [InnerProductSpace ℝ E] {x y v : E} (hy : ‖y‖ = 1)

include hy

theorem abs_inner_le_sin (hx : ‖x‖ = 1) (hv : ⟪x, v⟫ = 0) :
    |⟪y, v⟫| ≤ Real.sin (angle x y) * ‖v‖ := by
  -- The vector meets only the part of `y` that is orthogonal to `x`.
  have same : ⟪y, v⟫ = ⟪y - ⟪x, y⟫ • x, v⟫ := by
    rw [inner_sub_left, real_inner_smul_left, hv, mul_zero, sub_zero]
  rw [same, ← norm_tangential hx hy]
  exact abs_real_inner_le_norm _ _

end Projection

namespace Tensor

variable {m : ℕ} {shape : Shape} {x y : Tensor ℝ}

theorem toVector_neg : x.neg.toVector shape = -x.toVector shape := by
  ext i
  by_cases inside : (i : ℕ) < x.entries.length
  · simp [neg, inside]
  · simp [neg, Nat.not_lt.mp inside]

theorem sumLast_of_axis (hx : x.shape = [m]) : x.sumLast = .ok (.vector [x.total]) := by
  have full : x.entries.length = m := by rw [x.size_eq, hx, Shape.size_singleton]
  have all : (x.entries.drop (0 * m)).take m = x.entries := by
    rw [Nat.zero_mul, List.drop_zero, List.take_of_length_le full.le]
  simp only [sumLast, hx, List.reverse_singleton]
  refine congrArg _ (ext rfl ?_)
  change [((x.entries.drop (0 * m)).take m).foldl Scalar.sum 0] = _
  rw [all]
  rfl

theorem vector_mul (c : ℝ) (hx : x.shape = [m]) : (vector [c]).mul x = .ok (x.scale c) := by
  have full : x.entries.length = m := by rw [x.size_eq, hx, Shape.size_singleton]
  -- The one entry meets the other array as it is if that has one entry too, and is spread otherwise.
  by_cases single : m = 1
  · subst single
    obtain ⟨a, entries⟩ := List.length_eq_one_iff.mp full
    rw [mul, pointwise_of_shape _ hx.symm]
    refine congrArg _ (ext hx.symm ?_)
    simp [zipSame, vector, scale, entries]
  · have apart : (vector [c]).shape ≠ x.shape := by simp [vector, hx, Ne.symm single]
    have left : (vector [c]).item? = none := by simp [item?, vector]
    have right : x.item? = none := by simp [item?, hx]
    have joined : Shape.join (vector [c]).shape x.shape = some [m] := by
      simp [vector, hx, Shape.join, Shape.joinReversed, Shape.joinAxis, Ne.symm single]
    simp only [mul, pointwise, dif_neg apart, left, right, zipSpread, joined]
    refine congrArg _ (ext hx.symm (List.ext_getElem (by simp [tabulate, scale, full]) ?_))
    intro i inside _
    have below : i < m := by simpa [tabulate] using inside
    simp [tabulate, vector, scale, hx, Shape.origin, single, Nat.mod_eq_of_lt below, full, below]

end Tensor

namespace Sphere

variable {n : ℕ} {x y v : Tensor ℝ}

section Shapes

variable (hx : x.shape = [n + 1]) (hy : y.shape = [n + 1]) (hv : v.shape = [n + 1])

include hx hv

theorem project_of_shape :
    ∃ w, project x v = .ok w ∧ w.shape = [n + 1] ∧ w.toVector [n + 1] =
      v.toVector [n + 1] - ⟪x.toVector [n + 1], v.toVector [n + 1]⟫ • x.toVector [n + 1] := by
  let products := Tensor.zipSame Scalar.product x v (hx.trans hv.symm)
  have multiplied : x.mul v = .ok products := Tensor.pointwise_of_shape _ _
  have summed : products.sumLast = .ok (.vector [⟪x.toVector [n + 1], v.toVector [n + 1]⟫]) := by
    rw [Tensor.sumLast_of_axis (x := products) hx, Tensor.total_real, Tensor.inner_toVector hx hv]
    rfl
  obtain ⟨w, removed, hw, vector⟩ := Tensor.sub_of_shape hv
    (y := x.scale ⟪x.toVector [n + 1], v.toVector [n + 1]⟫) hx
  refine ⟨w, ?_, hw, by rw [vector, Tensor.toVector_scale]⟩
  exact Outcome.bind_eq_ok.mpr ⟨_, multiplied, Outcome.bind_eq_ok.mpr ⟨_, summed,
    Outcome.bind_eq_ok.mpr ⟨_, Tensor.vector_mul _ hx, removed⟩⟩⟩

include hy

theorem rotateAlong_of_shape :
    ∃ w, rotateAlong x y v = .ok w ∧ w.shape = [n + 1] ∧ w.toVector [n + 1] =
      rotated (x.toVector [n + 1]) (y.toVector [n + 1]) (v.toVector [n + 1]) := by
  obtain ⟨middle, added, hmiddle, sum⟩ := Tensor.add_of_shape hx hy
  let ratio := ⟪y.toVector [n + 1], v.toVector [n + 1]⟫ /
    (1 + ⟪x.toVector [n + 1], y.toVector [n + 1]⟫)
  have axes : middle.shape ≠ [] := by simp [hmiddle]
  obtain ⟨w, removed, hw, vector⟩ := Tensor.sub_of_shape hv (y := middle.scale ratio) hmiddle
  refine ⟨w, ?_, hw, by rw [vector, Tensor.toVector_scale, sum, rotated]⟩
  refine Outcome.bind_eq_ok.mpr ⟨_, Tensor.dot_toVector hy hv, ?_⟩
  refine Outcome.bind_eq_ok.mpr ⟨_, Tensor.dot_toVector hx hy, ?_⟩
  refine Outcome.bind_eq_ok.mpr ⟨.scalar ratio, rfl, Outcome.bind_eq_ok.mpr ⟨_, added, ?_⟩⟩
  exact Outcome.bind_eq_ok.mpr ⟨_, Tensor.scalar_mul axes ratio, removed⟩

theorem transp_of_shape :
    ∃ d w, dist x y = .ok (.scalar d) ∧ transp x y v = .ok w ∧ w.shape = [n + 1] ∧
      w.toVector [n + 1] = if d < Tolerance.epsilon then
        v.toVector [n + 1] - ⟪y.toVector [n + 1], v.toVector [n + 1]⟫ • y.toVector [n + 1]
      else rotated (x.toVector [n + 1]) (y.toVector [n + 1]) (v.toVector [n + 1]) := by
  obtain ⟨nearby, projected, hnearby, close⟩ := project_of_shape hy hv
  obtain ⟨along, turned, halong, far⟩ := rotateAlong_of_shape hx hy hv
  obtain ⟨d, measured⟩ : ∃ d, dist x y = .ok (.scalar d) := ⟨_, dist_of_shape hx hy⟩
  refine ⟨d, if d < Tolerance.epsilon then nearby else along, measured, ?_, ?_, ?_⟩
  · refine Outcome.bind_eq_ok.mpr ⟨_, measured, Outcome.bind_eq_ok.mpr ⟨_, rfl, ?_⟩⟩
    refine Outcome.bind_eq_ok.mpr ⟨_, projected, Outcome.bind_eq_ok.mpr ⟨_, turned, ?_⟩⟩
    rw [if_pos (hnearby.trans halong.symm)]
    rfl
  · split
    next => exact hnearby
    next => exact halong
  · split
    next => exact close
    next => exact far

theorem transport_of_shape {method : Literal ℝ} (named : method.NamesTransport) :
    ∃ w, (sphere n).transport x y v method = .ok w ∧ w.shape = [n + 1] := by
  obtain ⟨w, projected, hw, -⟩ := project_of_shape hy hv
  obtain ⟨-, w', -, carried, hw', -⟩ := transp_of_shape hx hy hv
  cases named with
  | default => exact ⟨w', carried, hw'⟩
  | method m =>
    cases m with
    | parallel => exact ⟨w', carried, hw'⟩
    | projection => exact ⟨w, projected, hw⟩

end Shapes

section Points

variable (hx : Point n x) (hy : Point n y)

include hx hy

theorem transp_of_points (hv : v.shape = [n + 1]) :
    ∃ w, transp x y v = .ok w ∧ w.shape = [n + 1] ∧
      w.toVector [n + 1] = if arc n x y < Tolerance.epsilon then
        v.toVector [n + 1] - ⟪y.toVector [n + 1], v.toVector [n + 1]⟫ • y.toVector [n + 1]
      else rotated (x.toVector [n + 1]) (y.toVector [n + 1]) (v.toVector [n + 1]) := by
  obtain ⟨d, w, measured, carried, hw, vector⟩ := transp_of_shape hx.shape hy.shape hv
  obtain rfl : d = arc n x y := by
    have same := Except.ok.inj (measured.symm.trans (dist_of_points hx hy))
    simpa using congrArg Tensor.entries same
  exact ⟨w, carried, hw, vector⟩

theorem transp_nearby (close : arc n x y < Tolerance.epsilon) (hv : Tangent n x v) :
    ∃ w, transp x y v = .ok w ∧ Tangent n y w ∧
      ‖w.toVector [n + 1]‖ ^ 2 ≤ ‖v.toVector [n + 1]‖ ^ 2 ∧
      ‖v.toVector [n + 1]‖ ^ 2 * (1 - Tolerance.epsilon ^ 2) ≤ ‖w.toVector [n + 1]‖ ^ 2 := by
  obtain ⟨w, carried, hw, vector⟩ := transp_of_points hx hy hv.vector
  rw [if_pos close] at vector
  refine ⟨w, carried, ⟨hy.shape, hw, ?_⟩, ?_⟩
  · rw [vector, inner_tangential hy.unit]
  · have lost := abs_inner_le_sin hy.unit hx.unit hv.orthogonal
    have small : Real.sin (arc n x y) ≤ Tolerance.epsilon :=
      (Real.sin_le (angle_nonneg _ _)).trans close.le
    have part : |⟪y.toVector [n + 1], v.toVector [n + 1]⟫| ≤
        Tolerance.epsilon * ‖v.toVector [n + 1]‖ :=
      lost.trans (mul_le_mul_of_nonneg_right small (norm_nonneg _))
    have square := pow_le_pow_left₀ (abs_nonneg _) part 2
    rw [sq_abs, mul_pow] at square
    rw [vector, norm_tangential_sq hy.unit]
    constructor
    · linarith [sq_nonneg ⟪y.toVector [n + 1], v.toVector [n + 1]⟫]
    · linarith

theorem apart_of_ne_neg (differ : y ≠ x.neg) :
    1 + ⟪x.toVector [n + 1], y.toVector [n + 1]⟫ ≠ 0 := by
  refine one_add_inner_ne_zero hx.unit hy.unit fun opposite => differ ?_
  exact Tensor.eq_of_toVector hy.shape hx.shape (opposite.trans Tensor.toVector_neg.symm)

variable (far : Tolerance.epsilon ≤ arc n x y)
  (apart : 1 + ⟪x.toVector [n + 1], y.toVector [n + 1]⟫ ≠ 0)

include far

theorem transp_rotates (hv : v.shape = [n + 1]) :
    ∃ w, transp x y v = .ok w ∧ w.shape = [n + 1] ∧ w.toVector [n + 1] =
      rotated (x.toVector [n + 1]) (y.toVector [n + 1]) (v.toVector [n + 1]) := by
  have carried := transp_of_points hx hy hv
  rwa [if_neg (not_lt.mpr far)] at carried

include apart

theorem transp_tangent (hv : Tangent n x v) :
    ∃ w, transp x y v = .ok w ∧ Tangent n y w ∧ transp y x w = .ok v ∧ w.toVector [n + 1] =
      rotated (x.toVector [n + 1]) (y.toVector [n + 1]) (v.toVector [n + 1]) := by
  obtain ⟨w, carried, hw, vector⟩ := transp_rotates hx hy far hv.vector
  obtain ⟨u, back, hu, vector'⟩ := transp_rotates hy hx (by rwa [arc_comm]) hw
  have same : u = v := by
    refine Tensor.eq_of_toVector hu hv.vector ?_
    rw [vector', vector, rotated_rotated apart hx.unit hv.orthogonal]
  refine ⟨w, carried, ⟨hy.shape, hw, ?_⟩, same ▸ back, vector⟩
  rw [vector, inner_rotated apart hy.unit]

theorem transp_log :
    ∃ v w, log x y = .ok v ∧ log y x = .ok w ∧ transp x y v = .ok w.neg := by
  obtain ⟨v, t, taken, hv, tangential, there⟩ := log_of_shape hx.shape hy.shape
  obtain ⟨w, t', taken', hw, tangential', back⟩ := log_of_shape hy.shape hx.shape
  obtain ⟨q, carried, hq, vector⟩ := transp_rotates hx hy far hv
  -- Both directions are as long as the sine of the one angle, so that they are stretched alike.
  have alike : ‖t‖ = ‖t'‖ := by
    rw [tangential, tangential', ← sin_arc hx hy, ← sin_arc hy hx, arc_comm]
  rw [alike] at there
  rw [real_inner_comm] at tangential' back
  have same : q = w.neg := by
    refine Tensor.eq_of_toVector hq hw ?_
    rw [Tensor.toVector_neg, vector, there, back, rotated_smul, tangential,
      rotated_tangential apart hy.unit, smul_neg, tangential']
  exact ⟨v, w, taken, taken', same ▸ carried⟩

omit far in
theorem transport_tangent {method : Literal ℝ} (named : method.NamesTransport)
    (hv : Tangent n x v) : ∃ w, (sphere n).transport x y v method = .ok w ∧ Tangent n y w := by
  have along : ∃ w, transp x y v = .ok w ∧ Tangent n y w := by
    by_cases close : arc n x y < Tolerance.epsilon
    · obtain ⟨w, carried, tangent, -⟩ := transp_nearby hx hy close hv
      exact ⟨w, carried, tangent⟩
    · obtain ⟨w, carried, tangent, -⟩ := transp_tangent hx hy (not_lt.mp close) apart hv
      exact ⟨w, carried, tangent⟩
  cases named with
  | default => exact along
  | method m =>
    cases m with
    | parallel => exact along
    | projection =>
      obtain ⟨w, projected, hw, vector⟩ := project_of_shape hy.shape hv.vector
      refine ⟨w, projected, hy.shape, hw, ?_⟩
      rw [vector, inner_tangential hy.unit]

end Points

theorem transport_self (hx : Point n x) {method : Literal ℝ} (named : method.NamesTransport)
    (hv : Tangent n x v) : (sphere n).transport x x v method = .ok v := by
  have same {w : Tensor ℝ} (hw : w.shape = [n + 1]) (vector : w.toVector [n + 1] =
      v.toVector [n + 1] - ⟪x.toVector [n + 1], v.toVector [n + 1]⟫ • x.toVector [n + 1]) :
      w = v := by
    refine Tensor.eq_of_toVector hw hv.vector ?_
    rw [vector, hv.orthogonal, zero_smul, sub_zero]
  have along : transp x x v = .ok v := by
    obtain ⟨w, carried, hw, vector⟩ := transp_of_points hx hx hv.vector
    have nonzero : x.toVector [n + 1] ≠ 0 := norm_ne_zero_iff.mp (hx.unit ▸ one_ne_zero)
    rw [arc, angle_self nonzero, if_pos Tolerance.epsilon_pos] at vector
    rw [carried, same hw vector]
  cases named with
  | default => exact along
  | method m =>
    cases m with
    | parallel => exact along
    | projection =>
      obtain ⟨w, projected, hw, vector⟩ := project_of_shape hx.shape hv.vector
      exact projected.trans (congrArg Except.ok (same hw vector))

/-- Between points that are neither close nor antipodal, the transport is an isometry of the tangent
spaces that the transport back inverts, and it takes the velocity of the geodesic to the one that leads
on. Between close points what it gives is still tangent, and hardly shorter. -/
theorem transp_isometry {n : ℕ} {x y : Tensor ℝ} (hx : Point n x) (hy : Point n y) :
    (sphere n).dist x y = .ok (.scalar (arc n x y)) ∧
    (y ≠ x.neg → Tolerance.epsilon ≤ arc n x y →
      (∀ {u v}, Tangent n x u → Tangent n x v → ∃ u' v',
        (sphere n).transp x y u = .ok u' ∧ (sphere n).transp x y v = .ok v' ∧
        Tangent n y u' ∧ Tangent n y v' ∧
        (sphere n).inner y u' v' = .ok (.scalar ⟪u.toVector [n + 1], v.toVector [n + 1]⟫) ∧
        (sphere n).transp y x v' = .ok v) ∧
      ∃ v w, (sphere n).log x y = .ok v ∧ (sphere n).log y x = .ok w ∧
        (sphere n).transp x y v = .ok w.neg) ∧
    (arc n x y < Tolerance.epsilon → ∀ {v}, Tangent n x v → ∃ w,
      (sphere n).transp x y v = .ok w ∧ Tangent n y w ∧
      ‖w.toVector [n + 1]‖ ^ 2 ≤ ‖v.toVector [n + 1]‖ ^ 2 ∧
      ‖v.toVector [n + 1]‖ ^ 2 * (1 - Tolerance.epsilon ^ 2) ≤ ‖w.toVector [n + 1]‖ ^ 2) := by
  refine ⟨dist_of_points hx hy, fun differ far => ?_, fun close v => transp_nearby hx hy close⟩
  have apart := apart_of_ne_neg hx hy differ
  refine ⟨fun {u v} hu hv => ?_, transp_log hx hy far apart⟩
  obtain ⟨u', carried, hu', -, vector⟩ := transp_tangent hx hy far apart hu
  obtain ⟨v', carried', hv', back, vector'⟩ := transp_tangent hx hy far apart hv
  refine ⟨u', v', carried, carried', hu', hv', ?_, back⟩
  have product : (sphere n).inner y u' v' = _ := Tensor.dot_toVector hu'.vector hv'.vector
  rw [product, vector, vector',
    inner_rotated_rotated apart hx.unit hy.unit hu.orthogonal hv.orthogonal]

theorem transp_isometry_space :
    (∃ u v, (sphere 2).transp (.vector [(1 : ℝ), 0, 0]) (.vector [-(3 / 5), 4 / 5, 0])
        (.vector [0, 1, 0]) = .ok u ∧
      (sphere 2).transp (.vector [1, 0, 0]) (.vector [-(3 / 5), 4 / 5, 0]) (.vector [0, 2, 3]) =
        .ok v ∧
      (sphere 2).inner (.vector [-(3 / 5), 4 / 5, 0]) u v = .ok (.scalar 2) ∧
      (sphere 2).transp (.vector [-(3 / 5), 4 / 5, 0]) (.vector [1, 0, 0]) v =
        .ok (.vector [0, 2, 3])) ∧
    ∃ w, (sphere 2).transp (.vector [(1 : ℝ), 0, 0])
        (.vector [(1e22 - 1) / (1e22 + 1), 2e11 / (1e22 + 1), 0]) (.vector [0, 2, 3]) = .ok w ∧
      ⟪(Tensor.vector [(1e22 - 1) / (1e22 + 1), 2e11 / (1e22 + 1), 0]).toVector [2 + 1],
        w.toVector [2 + 1]⟫ = 0 ∧
      ‖w.toVector [2 + 1]‖ ^ 2 ≤ 13 := by
  have hx : Point 2 (.vector [1, 0, 0]) := point_vector rfl (by simp)
  have hy : Point 2 (.vector [-(3 / 5), 4 / 5, 0]) := point_vector rfl (by norm_num)
  have hz : Point 2 (.vector [(1e22 - 1) / (1e22 + 1), 2e11 / (1e22 + 1), 0]) :=
    point_vector rfl (by norm_num)
  have hu : Tangent 2 (.vector [1, 0, 0]) (.vector [0, 1, 0]) := tangent_vector rfl rfl (by simp)
  have hv : Tangent 2 (.vector [1, 0, 0]) (.vector [0, 2, 3]) := tangent_vector rfl rfl (by simp)
  have differ : Tensor.vector [(-(3 / 5) : ℝ), 4 / 5, 0] ≠ (Tensor.vector [1, 0, 0]).neg := by
    intro same
    have entries := congrArg Tensor.entries same
    norm_num [Tensor.vector, Tensor.neg] at entries
  have far : Tolerance.epsilon ≤ arc 2 (.vector [1, 0, 0]) (.vector [-(3 / 5), 4 / 5, 0]) := by
    have obtuse := not_lt.mp (Real.arccos_lt_pi_div_two.not.mpr (by norm_num : ¬ 0 < -(3 / 5 : ℝ)))
    have small : (Tolerance.epsilon : ℝ) ≤ 1 := by norm_num [Tolerance.epsilon]
    rw [arc_vector hx hy (c := -(3 / 5)) (by norm_num)]
    exact small.trans (le_trans (by linarith [Real.two_le_pi]) obtuse)
  have close : arc 2 (.vector [1, 0, 0]) (.vector [(1e22 - 1) / (1e22 + 1), 2e11 / (1e22 + 1), 0]) <
      Tolerance.epsilon := by
    have chord := le_two_mul_sin (Real.arccos_nonneg ((1e22 - 1) / (1e22 + 1)))
      (Real.arccos_le_pi_div_two.mpr (by norm_num))
    rw [Real.sin_arccos] at chord
    have sine : √(1 - ((1e22 - 1) / (1e22 + 1)) ^ 2) < 3e-11 :=
      (Real.sqrt_lt' (by norm_num)).mpr (by norm_num)
    rw [arc_vector hx hz (c := (1e22 - 1) / (1e22 + 1)) (by simp)]
    have small : 2 * (3e-11 : ℝ) < Tolerance.epsilon := by norm_num [Tolerance.epsilon]
    exact chord.trans_lt (by linarith)
  obtain ⟨-, along, -⟩ := transp_isometry hx hy
  obtain ⟨-, -, nearby⟩ := transp_isometry hx hz
  obtain ⟨u, v, carried, carried', -, -, product, back⟩ := (along differ far).1 hu hv
  obtain ⟨w, moved, tangent, shorter, -⟩ := nearby close hv
  rw [Tensor.inner_vector (by rfl) (by rfl)] at product
  rw [← real_inner_self_eq_norm_sq ((Tensor.vector [0, 2, 3]).toVector [2 + 1]),
    Tensor.inner_vector (by rfl) (by rfl)] at shorter
  norm_num at product shorter
  exact ⟨⟨u, v, carried, carried', product, back⟩, w, moved, tangent.orthogonal, shorter⟩

end Sphere

end ManifoldOpt
