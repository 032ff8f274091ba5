import ManifoldOpt.Proofs.Newton.System
import ManifoldOpt.Proofs.Solver.History
import ManifoldOpt.Proofs.Solver.Renewal
import ManifoldOpt.Proofs.Subgradient.Step

set_option autoImplicit false

namespace ManifoldOpt

open Attempt

variable {α : Type} [Scalar α]

structure CostProblem.IgnoresEvents (problem : CostProblem α) : Prop where
  cost : ∀ p, Attempt.IgnoresEvents (problem.cost p)
  subgradient : problem.subgradient.IgnoresEvents

theorem CostProblem.IgnoresEvents.costAt {problem : CostProblem α}
    (ignores : problem.IgnoresEvents) (p : Tensor α) :
    Attempt.IgnoresEvents (problem.costAt p) := by
  refine Couples.bind_eq (ignores.cost p) fun value => ?_
  cases value with
  | none => exact couples_throw _
  | some value => exact couples_outcome _

namespace SubgradientState

def UpToTraces (x y : SubgradientState α) : Prop := ∃ traces, y = { x with traces }

structure SameSetting (x y : SubgradientState α) : Prop where
  point : x.point = y.point
  stepsize : x.stepsize = y.stepsize
  retraction : x.retraction = y.retraction

theorem SameSetting.begun {x y : SubgradientState α} (setting : SameSetting x y) (cost : α) :
    UpToTraces
      { x with
        best := x.point, bestCost := some cost, directionPoint := x.point
        direction := x.point.zerosLike }
      { y with
        best := y.point, bestCost := some cost, directionPoint := y.point
        direction := y.point.zerosLike } := by
  obtain ⟨point, _, _, _, _, stepsize, retraction, _⟩ := x
  obtain ⟨rfl, rfl, rfl⟩ := setting
  exact ⟨y.traces, rfl⟩

omit [Scalar α] in
theorem modifyOwn_couples {f : SubgradientState α → SubgradientState α}
    (apart : ∀ x traces, ∃ traces', f { x with traces } = { f x with traces := traces' }) :
    Couples (Stage.AlikeRuns UpToTraces) Eq (Running.modifyOwn f : Running α _ Unit)
      (Running.modifyOwn f) := by
  refine Running.modifyOwn_couples ?_
  rintro x _ ⟨traces, rfl⟩
  exact apart x traces

omit [Scalar α] in
theorem notes_respect_traces : notes.Respect (Stage.AlikeRuns (UpToTraces (α := α))) where
  alpha _ := modifyOwn_couples fun _ _ => ⟨_, rfl⟩
  theta _ := modifyOwn_couples fun _ _ => ⟨_, rfl⟩
  same _ := modifyOwn_couples fun _ _ => ⟨_, rfl⟩
  trial _ := modifyOwn_couples fun _ _ => ⟨_, rfl⟩
  emit event := Stage.couples_emit event event

end SubgradientState

namespace Subgradient

open SubgradientState (UpToTraces SameSetting modifyOwn_couples)

variable {problem : CostProblem α}

theorem stepLength_couples (M : Manifold α) (k : Int) :
    Couples (Stage.AlikeRuns UpToTraces) Eq (stepLength M k) (stepLength M k) := by
  refine Running.getOwn_couples.bind ?_
  rintro own _ ⟨traces, rfl⟩
  cases own.stepsize with
  | rule r => exact couples_outcome _
  | damped d =>
    exact DampingSearch.run_couples SubgradientState.notes_respect_traces (couples_throw _) d
  | inert v => exact couples_throw _

theorem keepBest_couples (cost : α) :
    Couples (Stage.AlikeRuns UpToTraces) Eq (keepBest cost) (keepBest cost) := by
  refine Running.getOwn_couples.bind ?_
  rintro own _ ⟨traces, rfl⟩
  cases own.bestCost with
  | none => exact couples_throw _
  | some best =>
    refine Couples.ite (fun _ => ?_) fun _ => couples_pure rfl
    exact modifyOwn_couples fun _ traces => ⟨traces, rfl⟩

section Ignoring

variable (ignores : problem.IgnoresEvents)

include ignores

theorem setUp_couples :
    Couples (Stage.AlikeRuns UpToTraces) Eq (setUp problem) (setUp problem) := by
  refine (modifyOwn_couples fun _ traces => ⟨traces, rfl⟩).bind_eq fun _ => ?_
  refine Running.getOwn_couples.bind ?_
  rintro own _ ⟨traces, rfl⟩
  refine (Stage.couples_onTrail (ignores.costAt _)).bind_eq fun cost => ?_
  refine (modifyOwn_couples fun _ traces => ⟨traces, rfl⟩).bind_eq fun _ => ?_
  exact Running.setStepsize_couples none

theorem step_couples (k : Int) :
    Couples (Stage.AlikeRuns UpToTraces) Eq (step problem k) (step problem k) := by
  refine (modifyOwn_couples fun _ traces => ⟨traces, rfl⟩).bind_eq fun _ => ?_
  refine Running.getOwn_couples.bind ?_
  rintro own _ ⟨traces, rfl⟩
  refine (Stage.couples_onTrail (ignores.subgradient.evaluate _ _)).bind_eq fun v => ?_
  refine (modifyOwn_couples fun _ traces => ⟨traces, rfl⟩).bind_eq fun _ => ?_
  refine (stepLength_couples _ k).bind_eq fun length => ?_
  refine (Running.setStepsize_couples _).bind_eq fun _ => Running.getOwn_couples.bind ?_
  rintro own _ ⟨traces, rfl⟩
  refine Couples.lift_bind fun p _ => ?_
  refine (modifyOwn_couples fun _ traces => ⟨traces, rfl⟩).bind_eq fun _ => ?_
  exact (Stage.couples_onTrail (ignores.costAt _)).bind_eq fun cost => keepBest_couples cost

theorem setUp_renews {s t v : Stage α (Run α (SubgradientState α))}
    (tally : s.trail.tally = t.trail.tally) (used : s.state.stop.AfterUse t.state.stop)
    (setting : SameSetting s.state.own t.state.own)
    (fields : s.state.recorder.map Recorder.fields = t.state.recorder.map Recorder.fields)
    (set : setUp problem t = .ok () v) :
    ∃ u, setUp problem s = .ok () u ∧ Stage.Alike (Run.Restarted UpToTraces) u v := by
  obtain ⟨cost, trail, evaluated, -⟩ := setUp_eq_ok set
  cases set.symm.trans (setUp_apply evaluated)
  -- The cost is evaluated at the same point, whatever has been reported before.
  rw [← setting.point] at evaluated
  obtain ⟨trail', evaluated', tally'⟩ := (ignores.costAt _).ok_left tally.symm evaluated
  exact ⟨_, setUp_apply evaluated', tally'.symm, used, setting.begun cost, fields, rfl⟩

end Ignoring

def Solves (given : Solver α (SubgradientState α)) : Prop := ∃ problem, given = solverFor problem

variable {problem : Problem α} (ignores : problem.asCost.IgnoresEvents)

include ignores

theorem costAt?_ignores : ∀ cost ∈ problem.costAt?, ∀ p, Attempt.IgnoresEvents (cost p) := by
  intro cost given
  cases problem with
  | cost problem =>
    cases given
    exact ignores.costAt
  | root problem => cases given

theorem solver_renewable : (solverFor problem).Renewable UpToTraces UpToTraces := by
  have alike : (solverFor problem).Alike UpToTraces (solverFor problem) := {
    name := rfl
    level := rfl
    view := by
      rintro x _ ⟨traces, rfl⟩
      rfl
    ignores := fun _ => costAt?_ignores ignores
    setUp := setUp_couples ignores
    step := step_couples ignores }
  refine ⟨alike, fun _ _ same => same, ?_, fun s t before => .inl (alike.step 1 s t before)⟩
  rintro x _ ⟨traces, rfl⟩
  exact ⟨problem.asCost.manifold, x.point, ⟨rfl, rfl⟩, ⟨rfl, rfl⟩⟩

theorem solve_renews {s t v : Stage α (Run α (SubgradientState α))}
    {recorder recorder' : Option (Recorder α)} (tally : s.trail.tally = t.trail.tally)
    (used : s.state.stop.AfterUse t.state.stop) (setting : SameSetting s.state.own t.state.own)
    (fields : (s.state.attach recorder).recorder.map Recorder.fields =
      (t.state.attach recorder').recorder.map Recorder.fields)
    (set : (solverFor problem).setUp ⟨t.trail, t.state.attach recorder'⟩ = .ok () v)
    (allowance : Nat) :
    Agree (Stage.AlikeRuns UpToTraces) Eq ((solverFor problem).solve (allowance + 1) recorder s)
      ((solverFor problem).solve (allowance + 1) recorder' t) := by
  obtain ⟨u, set', restarted⟩ := setUp_renews (s := ⟨s.trail, s.state.attach recorder⟩)
    (t := ⟨t.trail, t.state.attach recorder'⟩) ignores tally used setting fields set
  exact (solver_renewable ignores).solve set' set restarted allowance

end Subgradient

end ManifoldOpt
