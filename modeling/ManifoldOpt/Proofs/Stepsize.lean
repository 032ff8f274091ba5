import ManifoldOpt.Proofs.Attempt
import ManifoldOpt.Proofs.Scalar.Exact
import ManifoldOpt.Stepsize

set_option autoImplicit false

namespace ManifoldOpt

open Outcome

section Checks

variable {α : Type} {n : Number α} {name : String} {given : Literal α}

theorem guarded_eq_ok {β : Type} {bad : Bool} {e : Fault α} {b c : β}
    (passed : (do
      if bad then throw e
      return b : Outcome α β) = .ok c) : bad = false ∧ b = c := by
  cases bad with
  | true => cases passed
  | false =>
    cases passed
    exact ⟨rfl, rfl⟩

variable [Scalar α]

theorem checkNonNegative_eq_ok (checked : checkNonNegative name given = .ok n) :
    n.lt (.int 0) = false := by
  obtain ⟨m, -, rest⟩ := bind_eq_ok.mp checked
  obtain ⟨passed, rfl⟩ := guarded_eq_ok rest
  exact passed

theorem checkPositive_eq_ok (checked : checkPositive name given = .ok n) :
    n.le (.int 0) = false := by
  obtain ⟨m, -, rest⟩ := bind_eq_ok.mp checked
  obtain ⟨passed, rfl⟩ := guarded_eq_ok rest
  exact passed

theorem Number.value_pos_of_le {n : Number ℝ} (checked : n.le (.int 0) = false) : 0 < n.value := by
  rw [← Bool.not_eq_true, Number.le_iff, not_le] at checked
  simpa [Number.value, Scalar.ofInt] using checked

end Checks

structure Damping.Valid (d : Damping ℝ) : Prop where
  desired_pos : 0 < d.desired
  desired_le : d.desired ≤ d.accepted
  trials_pos : 1 ≤ d.trials.value
  least_pos : 0 < d.least

namespace Stepsize

theorem affine_valid {arguments : Arguments ℝ} {d : Damping ℝ}
    (made : affine arguments = .ok (.damped d)) : d.Valid := by
  obtain ⟨_, -, chosen⟩ := bind_eq_ok.mp made
  -- The bound is accepted as it is given or by default; the checks that follow are the same.
  dsimp only at chosen
  split at chosen
  all_goals
    obtain ⟨_, -, rest⟩ := bind_eq_ok.mp chosen
    obtain ⟨desired, positive, rest⟩ := bind_eq_ok.mp rest
    obtain ⟨accepted, -, rest⟩ := bind_eq_ok.mp rest
    split at rest
    · cases rest
    rename_i ordered
    obtain ⟨trials, -, rest⟩ := bind_eq_ok.mp rest
    split at rest
    · cases rest
    rename_i counted
    obtain ⟨least, positive', rest⟩ := bind_eq_ok.mp rest
    simp only [Number.toScalar_real] at rest
    cases rest
    rw [Number.lt_iff, not_lt] at ordered counted
    have desired_pos := Number.value_pos_of_le (checkPositive_eq_ok positive)
    have least_pos := Number.value_pos_of_le (checkPositive_eq_ok positive')
    refine ⟨desired_pos, ordered, ?_, least_pos⟩
    simpa [Number.value, Scalar.ofInt] using counted

theorem defaultDamping_valid : (defaultDamping : Damping ℝ).Valid := by
  constructor <;>
    norm_num [defaultDamping, Default.desiredContraction, Default.acceptanceFactor,
      Default.dampingTrials, Default.leastDamping, Number.value, Scalar.ofInt]

end Stepsize

end ManifoldOpt
