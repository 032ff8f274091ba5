import ManifoldOpt.Problem.Gallery
import ManifoldOpt.Proofs.Newton.System

set_option autoImplicit false

namespace ManifoldOpt

variable {α : Type} [Scalar α]

open Attempt

omit [Scalar α] in
theorem Trail.count_ignores (index : Nat) :
    Attempt.IgnoresEvents (Trail.count index : Attempt α (Trail α) Nat) := by
  rintro ⟨_, tally⟩ ⟨_, _⟩ rfl
  exact .ok rfl rfl

omit [Scalar α] in
theorem Trail.count_tally (index : Nat) (t : Trail α) :
    (left (Trail.count index t)).tally.getD index 0 = t.tally.getD index 0 + 1 := by
  change ((t.tally ++ List.replicate (index + 1 - t.tally.length) 0).set index
    (t.tally.getD index 0 + 1)).getD index 0 = _
  have room : index < (t.tally ++ List.replicate (index + 1 - t.tally.length) 0).length := by
    rw [List.length_append, List.length_replicate]
    omega
  rw [List.getD_eq_getElem?_getD, List.getElem?_set_self room, Option.getD_some]

namespace SampleFunction

variable (M : Manifold α)

theorem call_ignores (value : Rule α → Tensor α → Outcome α (Tensor α)) (f : SampleFunction α)
    (p : Tensor α) : Attempt.IgnoresEvents (f.call M value p) := by
  induction f with
  | rule r => exact Couples.lift_bind fun v _ => couples_pure rfl
  | projected f ih =>
    refine Couples.bind_eq ih fun v => ?_
    cases v with
    | none => exact couples_throw _
    | some v => exact Couples.lift_bind fun w _ => couples_pure rfl
  | nothing => exact couples_pure rfl
  | lacking => exact couples_throw _
  | failing counter allowed message otherwise ih =>
    refine Couples.bind_eq (Trail.count_ignores counter) fun calls => ?_
    exact Couples.ite (fun _ => couples_throw _) fun _ => ih

theorem procedure_ignores (f : SampleFunction α) (use : BufferUse) (name : String)
    (evaluation : Evaluation) : (f.procedure M use name evaluation).IgnoresEvents := by
  have called (p : Tensor α) := f.call_ignores M (fun r p => r.vectorField M p) p
  cases evaluation with
  | allocating => exact called
  | inPlace =>
    intro buffer p
    cases use with
    | fill =>
      refine Couples.bind_eq (called p) fun v => ?_
      cases v with
      | none => exact couples_throw _
      | some v => exact Couples.lift_bind fun w _ => couples_pure rfl
    | add =>
      refine Couples.bind_eq (called p) fun v => ?_
      cases v with
      | none => exact couples_throw _
      | some v =>
        -- Nothing can be added to a buffer that is not there.
        cases buffer with
        | error e => exact couples_throw _
        | ok b => exact Couples.lift_bind fun w _ => couples_pure rfl
    | forget => exact Couples.bind_eq (called p) fun v => couples_pure rfl

end SampleFunction

end ManifoldOpt
