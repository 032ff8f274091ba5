import ManifoldOpt.Proofs.Damping.Log
import ManifoldOpt.Proofs.Problem.Log
import ManifoldOpt.Proofs.Solver.Log

set_option autoImplicit false

namespace ManifoldOpt

open Attempt
open Stage (Silent)

namespace Subgradient

variable {α : Type} [Scalar α] {problem : CostProblem α} (noReports : problem.NoReports)
  {picks : Event α → Bool} (skipsDebug : Event.SkipsDebug picks)

omit [Scalar α] in
theorem notes_keep_noReports :
    DampingSearch.NotesKeep (fun _ => True) (SubgradientState.notes (α := α)) :=
  ⟨fun _ _ _ => trivial, fun _ _ _ => trivial, fun _ _ _ => trivial, fun _ _ _ => trivial⟩

include skipsDebug in
theorem stepLength_silent {M : Manifold α} (noWarning : M.NoWarning) (k : Int) :
    Silent picks (fun _ => True) (stepLength M k) := by
  refine Running.getOwn_silent fun run _ => ?_
  cases run.own.stepsize with
  | rule r => exact Stage.silent_liftM (r.lengthAt_noWarning noWarning _ _ _)
  | damped d =>
    refine DampingSearch.run_silent (J := fun _ => True) skipsDebug ?_ notes_keep_noReports ?_ d
    · exact noWarning
    · exact Stage.silent_throw rfl
  | inert v => exact Stage.silent_throw rfl

include noReports

theorem setUp_silent : Silent picks (fun _ => True) (setUp problem) := by
  refine (Running.modifyOwn_silent fun _ _ => trivial).bind fun _ => ?_
  refine Running.getOwn_silent fun run _ => ?_
  refine (Stage.silent_onTrail (noReports.costAt _)).bind fun cost => ?_
  refine (Running.modifyOwn_silent fun _ _ => trivial).bind fun _ => ?_
  exact Running.setStepsize_silent fun _ _ => trivial

include skipsDebug

theorem step_silent (k : Int) : Silent picks (fun _ => True) (step problem k) := by
  refine (Running.modifyOwn_silent fun _ _ => trivial).bind fun _ => ?_
  refine Running.getOwn_silent fun run _ => ?_
  refine (Stage.silent_onTrail (noReports.subgradient.evaluate _ _)).bind fun v => ?_
  refine (Running.modifyOwn_silent fun _ _ => trivial).bind fun _ => ?_
  refine (stepLength_silent skipsDebug noReports.manifold k).bind fun length => ?_
  refine (Running.setStepsize_silent fun _ _ => trivial).bind fun _ => ?_
  refine Running.getOwn_silent fun run _ => ?_
  refine (Stage.silent_liftM (noReports.manifold.retract _ _ _)).bind fun p => ?_
  refine (Running.modifyOwn_silent fun _ _ => trivial).bind fun _ => ?_
  refine (Stage.silent_onTrail (noReports.costAt p)).bind fun cost => ?_
  refine Running.getOwn_silent fun run _ => ?_
  cases run.own.bestCost with
  | none => exact Stage.silent_throw rfl
  | some best => exact .ite (Running.modifyOwn_silent fun _ _ => trivial) (Stage.silent_pure ())

theorem solver_logs : (solver problem).Logs picks (fun _ => True) fun _ _ => [] := by
  refine .of_silent skipsDebug (fun x _ => ?_) (setUp_silent noReports)
    (step_silent noReports skipsDebug)
  exact {
    manifold := Outcome.noWarning_ok _
    noWarning := fun M known => by
      cases known
      exact noReports.manifold
    iterate := Outcome.noWarning_ok _
    direction := Outcome.noWarning_ok _
    subgradient := Outcome.noWarning_ok _
    cost := fun f shown p => by
      cases shown
      exact noReports.costAt p }

end Subgradient

end ManifoldOpt
