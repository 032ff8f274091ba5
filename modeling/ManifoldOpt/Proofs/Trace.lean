import ManifoldOpt.Proofs.Conventions
import ManifoldOpt.Proofs.Newton.Log
import ManifoldOpt.Proofs.Subgradient.Log

set_option autoImplicit false

namespace ManifoldOpt

open Attempt
open Event (reports)

variable {α : Type} [Scalar α]

namespace Solver

variable {S : Type}

def endReport (name : String) (n : Nat) :
    EStateM.Result (Fault α) (Stage α (Run α S)) Unit → List (Level × Event α)
  | .ok _ t => [(.info, .stopped name .info n t.state.stop.reason)]
  | .error _ _ => []

def warningReport : EStateM.Result (Fault α) (Stage α (Run α S)) Unit → List (Level × Event α)
  | .error (.dampingFailed k _ theta trials) _ => [(.warning, .dampingGivenUp k trials theta)]
  | _ => []

/-- What a run with `n` iterations has added to the log by its end. In the name of the solver there
is a report of every iteration, with its number and step length, and one of the end if the run
returns. Whoever reports, nothing else is added at the level of information, and only the failure of
a damping search as a warning. -/
structure Traced (solver : Solver α S) (recorder : Option (Recorder α))
    (first : Stage α (Run α S)) (n : Nat)
    (result : EStateM.Result (Fault α) (Stage α (Run α S)) Unit) : Prop where
  driver : (left result).trail.log (Event.isDrivenBy solver.name) =
    first.trail.log (Event.isDrivenBy solver.name) ++
      (List.range n).map (fun k => (Level.debug,
        .completed solver.name (k + 1) (solver.stepsizeAfter recorder first (k + 1)))) ++
      endReport solver.name n result
  info : (left result).trail.log (Event.isAt .info) =
    first.trail.log (Event.isAt .info) ++ endReport solver.name n result
  warning : (left result).trail.log (Event.isAt .warning) =
    first.trail.log (Event.isAt .warning) ++ warningReport result

variable {solver : Solver α S} {recorder : Option (Recorder α)} {first : Stage α (Run α S)}
  {picks : Event α → Bool} {J : S → Prop} {n : Nat}
  {result : EStateM.Result (Fault α) (Stage α (Run α S)) Unit}

omit [Scalar α] in
theorem warnings_passed (passed : ∀ k trials theta, picks (.dampingGivenUp k trials theta) = false)
    (e : Fault α) : reports picks e.warnings = [] := by
  cases e with
  | dampingFailed k alpha theta trials => exact Event.reports_passed (passed k trials theta)
  | _ => rfl

theorem closingReports_info (picked : ∀ reason, picks (.stopped solver.name .info n reason) = true)
    (passed : ∀ k trials theta, picks (.dampingGivenUp k trials theta) = false) :
    solver.closingReports picks .info n result = endReport solver.name n result := by
  cases result with
  | ok _ t => exact Event.reports_picked (picked t.state.stop.reason)
  | error e t => exact warnings_passed passed e

theorem closingReports_warning :
    solver.closingReports (Event.isAt .warning) .info n result = warningReport result := by
  cases result with
  | ok _ t => rfl
  | error e t =>
    cases e with
    | dampingFailed k alpha theta trials => rfl
    | _ => rfl

theorem Traced.of_logs (known : solver.level = .ok .info)
    (logs : ∀ picks : Event α → Bool, Event.SkipsDebug picks →
      (∀ k reason, picks (.stopped "Newton equation solver" .debug k reason) = false) →
      (∀ k size, picks (.completed "Newton equation solver" k size) = false) →
      solver.Logs picks J fun _ _ => [])
    (other : solver.name ≠ "Newton equation solver") (before : J first.state.own)
    {allowance begun : Nat} (ends : Ends solver allowance recorder first begun n n result) :
    Traced solver recorder first n result := by
  have loud : Level.debug.number ≤ Level.info.number := by decide
  have apart : decide (some "Newton equation solver" = some solver.name) = false :=
    decide_eq_false fun same => other (Option.some.inj same).symm
  constructor
  · have logged := logs (Event.isDrivenBy solver.name) (Event.skipsDebug_isDrivenBy _)
      (fun _ _ => apart) fun _ _ => apart
    have picked (event : Event α) (own : event.solver? = some solver.name) :
        Event.isDrivenBy solver.name event = true := decide_eq_true own
    have each (k : Nat) : solver.iterationReports (Event.isDrivenBy solver.name) (fun _ _ => [])
        recorder first k = [(Level.debug,
          .completed solver.name (k + 1) (solver.stepsizeAfter recorder first (k + 1)))] := by
      rw [iterationReports_nil]
      exact Event.reports_picked (picked _ rfl)
    rw [ends.log logged before known loud, stepReports_nil, ite_self, List.append_nil,
      closingReports_info (fun _ => picked _ rfl) fun _ _ _ => rfl, List.map_eq_flatMap,
      funext each]
  · have logged := logs (Event.isAt .info) (Event.skipsDebug_isAt nofun) (fun _ _ => rfl)
      fun _ _ => rfl
    rw [ends.log_of_silent before logged (fun _ _ => rfl) known loud,
      closingReports_info (fun _ => rfl) fun _ _ _ => rfl]
  · have logged := logs (Event.isAt .warning) (Event.skipsDebug_isAt nofun) (fun _ _ => rfl)
      fun _ _ => rfl
    rw [ends.log_of_silent before logged (fun _ _ => rfl) known loud, closingReports_warning]

theorem Ends.begun_eq {allowance begun completed recorded : Nat}
    (ends : Ends solver allowance recorder first begun completed recorded result) :
    begun = recorded ∨ begun = recorded + 1 := by
  cases ends with
  | unprepared failed => exact .inl rfl
  | after course ending =>
    cases ending with
    | exhausted spent => exact .inl rfl
    | stopped unspent fired => exact .inl rfl
    | unanswered unspent failed => exact .inl rfl
    | interrupted unspent going failed => exact .inr rfl
    | unrecorded unspent going stepped failed => exact .inr rfl

theorem ends_of_returned {allowance : Nat}
    (returned : (value? (solver.solve allowance recorder first)).isSome = true)
    (counted : (left (solver.solve allowance recorder first)).state.iteration = n) :
    Ends solver allowance recorder first n n n (solver.solve allowance recorder first) := by
  obtain ⟨⟨_, last⟩, found⟩ := Option.isSome_iff_exists.mp returned
  have ended := value?_eq_some.mp found
  obtain ⟨begun, completed, recorded, ends⟩ := solve_ends solver recorder first allowance
  obtain ⟨rfl, rfl, last_count⟩ := ends.of_returned ended
  rw [ended] at counted
  obtain rfl := Int.ofNat.inj (last_count.symm.trans counted)
  exact ends

theorem ends_of_brokenStep {allowance : Nat} (unspent : n < allowance)
    (failed : (solver.brokenStep recorder first n).isSome = true) :
    Ends solver allowance recorder first (n + 1) n n (solver.solve allowance recorder first) := by
  obtain ⟨⟨e, last⟩, found⟩ := Option.isSome_iff_exists.mp failed
  have broken := BreaksOff.of_brokenStep found
  rw [broken.solve_eq unspent]
  exact .after broken.course (broken.ending unspent)

end Solver

namespace Newton

section Solves

variable (problem : RootProblem α) (cost : Option (Tensor α → Attempt α (Trail α) α))
  (recorder : Option (Recorder α)) (first : Stage α (Run α (NewtonState α)))

/-- The inner runs after the inner solves that are completed in the step after `n` iterations. -/
def stepSolves (n : Nat) : List (Run α (LinearState α)) :=
  match (solver problem cost).stepStart recorder first n with
  | some s => (directionStages problem (n + 1) s).filterMap (innerSolve? problem (n + 1))
  | none => []

def innerSolves (begun : Nat) : List (Run α (LinearState α)) :=
  (List.range begun).flatMap (stepSolves problem cost recorder first)

end Solves

variable {problem : RootProblem α} {cost : Option (Tensor α → Attempt α (Trail α) α)}
  {recorder : Option (Recorder α)} {first : Stage α (Run α (NewtonState α))}
  (noReports : problem.NoReports) (costs : ∀ f ∈ cost, ∀ p, (f p).NoReports)

include noReports costs

theorem solver_logs_of_passed {picks : Event α → Bool} (skipsDebug : Event.SkipsDebug picks)
    (ended : ∀ k reason, picks (.stopped "Newton equation solver" .debug k reason) = false)
    (passed : ∀ k size, picks (.completed "Newton equation solver" k size) = false) :
    (solver problem cost).Logs picks (fun x => x.subsolver.NoReports problem) fun _ _ => [] := by
  have logs := solver_logs noReports skipsDebug passed costs
  have none (k : Int) (s : Stage α (Run α (NewtonState α))) :
      solveReports picks problem k s = [] := by
    refine List.flatMap_eq_nil_iff.mpr fun t _ => ?_
    unfold directionReports
    cases innerSolve? problem k t with
    | none => rfl
    | some r => exact Event.reports_passed (ended _ _)
  rwa [show solveReports picks problem = fun _ _ => [] from funext fun k => funext (none k)] at logs

variable {allowance begun n : Nat}
  {result : EStateM.Result (Fault α) (Stage α (Run α (NewtonState α))) Unit}
  (given : first.state.own.subsolver.NoReports problem)
  (ends : Solver.Ends (solver problem cost) allowance recorder first begun n n result)

include given ends

theorem traced : Solver.Traced (solver problem cost) recorder first n result :=
  .of_logs rfl (fun _ => solver_logs_of_passed noReports costs)
    (by decide : "Vector bundle Newton method" ≠ "Newton equation solver") given ends

omit noReports costs given ends in
theorem solveReports_ends (k : Int) (s : Stage α (Run α (NewtonState α))) :
    solveReports (Event.isEndOf "Newton equation solver") problem k s =
      ((directionStages problem k s).filterMap (innerSolve? problem k)).map fun r =>
        (Level.debug, LinearState.ending r) := by
  unfold solveReports
  induction directionStages problem k s with
  | nil => rfl
  | cons s rest ih =>
    rw [List.flatMap_cons, ih, directionReports]
    cases solved : innerSolve? problem k s with
    | none =>
      rw [List.filterMap_cons_none solved]
      rfl
    | some r =>
      rw [List.filterMap_cons_some solved]
      rfl

omit noReports costs given ends in
theorem stepReports_ends (k : Nat) :
    (solver problem cost).stepReports
        (solveReports (Event.isEndOf "Newton equation solver") problem) recorder first k =
      (stepSolves problem cost recorder first k).map fun r =>
        (Level.debug, LinearState.ending r) := by
  unfold Solver.stepReports stepSolves
  cases (solver problem cost).stepStart recorder first k with
  | none => rfl
  | some s => exact solveReports_ends _ s

theorem innerSolves_reported :
    (left result).trail.log (Event.isEndOf "Newton equation solver") =
      first.trail.log (Event.isEndOf "Newton equation solver") ++
        (innerSolves problem cost recorder first begun).map fun r =>
          (Level.debug, LinearState.ending r) := by
  have logs := solver_logs noReports (Event.skipsDebug_isEndOf "Newton equation solver")
    (fun _ _ => rfl) costs
  have closing : (solver problem cost).closingReports (Event.isEndOf "Newton equation solver") .info
      n result = [] := by
    cases result with
    | ok _ t => rfl
    | error e t => exact Solver.warnings_passed (fun _ _ _ => rfl) e
  -- The iterations are reported in the name of the outer solver.
  have each (k : Nat) :
      (solver problem cost).iterationReports (Event.isEndOf "Newton equation solver")
        (solveReports (Event.isEndOf "Newton equation solver") problem) recorder first k =
      (stepSolves problem cost recorder first k).map fun r =>
        (Level.debug, LinearState.ending r) := by
    rw [Solver.iterationReports, Event.reports_passed rfl, List.append_nil, stepReports_ends]
  rw [ends.log logs given rfl (by decide), closing, List.append_nil, List.append_assoc, funext each,
    ← List.map_flatMap, stepReports_ends]
  rcases ends.begun_eq with rfl | rfl
  · rw [if_neg (Nat.lt_irrefl _), List.append_nil]
    rfl
  · rw [if_pos (Nat.lt_succ_self n), ← List.map_append, innerSolves, List.range_succ,
      List.flatMap_append, List.flatMap_singleton]

end Newton

theorem Subgradient.parabola_noReports : parabola.NoReports where
  manifold := euclidean_noWarning [1]
  cost _ := .pure _
  subgradient := .allocating fun _ => .pure _

omit [Scalar α] in
theorem countedRule_noReports (rule : Tensor α → Tensor α) (p : Tensor α) :
    (countedRule rule p).NoReports := by
  refine .bind (m := Trail.count 0) ⟨fun _ => rfl, fun _ _ _ impossible => ?_⟩ fun _ => .pure _
  cases impossible

theorem halving_noReports : halving.NoReports where
  manifold := euclidean_noWarning [1]
  bundle := Bundle.tangent_noWarning (euclidean_noWarning [1])
  map := .allocating (countedRule_noReports _)
  derivative _ := .pure _
  operator _ _ _ _ derived := by
    cases derived
    exact fun v => Outcome.noWarning_ok _
  connection _ := Outcome.noWarning_ok _
  scaling := Outcome.noWarning_ok _

theorem Newton.directFunction_noReports {problem : RootProblem Float} (noReports : problem.NoReports) :
    (Subsolver.allocating directFunction).NoReports problem :=
  .allocating fun _ _ => (noReports.newtonVector _ _ _ _).bind fun _ => .pure _

def nestedHalving (d : Damping Float) : Stage Float (Run Float (NewtonState Float)) where
  trail := {}
  state := {
    stop := .after 2
    own := .start (euclidean [1]) (.tangent (euclidean [1])) (.vector [1])
      (.nested Newton.directEquation (.linear Newton.directRun)) none (some (.damped d)) .none
      .none }

def severeDamping : Damping Float := ⟨0.1, 0.11, .int 2, 1e-5⟩

end ManifoldOpt
