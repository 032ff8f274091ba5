import ManifoldOpt.Proofs.Damping.Log
import ManifoldOpt.Proofs.Newton.Evaluation
import ManifoldOpt.Proofs.Newton.Modes
import ManifoldOpt.Proofs.Newton.Renewal
import ManifoldOpt.Proofs.Problem.Log
import ManifoldOpt.Proofs.Solver.Log

/-!
The log of Newton's method. The equation is solved anew for every step and every trial. An inner
solve that is completed reports its end once, at the debug level, and one that fails does not; which
of this is picked is what a step adds to the log.
-/

set_option autoImplicit false

namespace ManifoldOpt

open Attempt
open Event (reports)
open Stage (Logged Silent)

variable {α : Type} [Scalar α] {picks : Event α → Bool}

namespace NewtonEquation

variable {e : NewtonEquation α}

def NoWarning (e : NewtonEquation α) : Prop :=
  ∀ problem base, e.source = some (problem, base) → problem.manifold.NoWarning

theorem posed_noWarning (e : NewtonEquation α) : e.posed.NoWarning := by
  unfold posed
  split
  · exact Outcome.noWarning_ok _
  · exact Outcome.noWarning_error.mpr rfl

theorem NoWarning.of_posed (noWarning : e.NoWarning) {problem : RootProblem α} {base : Tensor α}
    {system : NewtonSystem α} (posed : e.posed = .ok (problem, base, system)) :
    problem.manifold.NoWarning := by
  unfold NewtonEquation.posed at posed
  split at posed
  · rename_i source _
    cases posed
    exact noWarning problem base source
  · cases posed

theorem manifold_noWarning (e : NewtonEquation α) : e.manifold.NoWarning := by
  refine e.posed_noWarning.bind fun (problem, base, system) => ?_
  refine .ite (Outcome.noWarning_error.mpr rfl) ?_
  exact .ite (Outcome.noWarning_error.mpr rfl) (Outcome.noWarning_ok _)

theorem noWarning_of_manifold {M : Manifold α} (known : e.manifold = .ok M) : M.NoWarning := by
  obtain ⟨⟨problem, base, system⟩, -, rest⟩ := Outcome.bind_eq_ok.mp known
  dsimp only at rest
  split at rest
  · cases rest
  · split at rest
    · cases rest
    · cases rest
      exact euclidean_noWarning _

variable (noWarning : e.NoWarning)

include noWarning

theorem NoWarning.coordinates (v : Tensor α) : (e.coordinates v).NoWarning :=
  e.posed_noWarning.bind_of_ok fun (_, _, _) posed => (noWarning.of_posed posed).coordinates _ _ _

theorem NoWarning.vector (c : Tensor α) : (e.vector c).NoWarning :=
  e.posed_noWarning.bind_of_ok fun (_, _, _) posed => (noWarning.of_posed posed).vector _ _ _

theorem NoWarning.residualNorm (v : Tensor α) : (e.residualNorm v).NoWarning := by
  refine e.posed_noWarning.bind fun (_, _, system) => (noWarning.coordinates v).bind fun c => ?_
  refine (Tensor.apply_noWarning _ _).bind fun image => ?_
  exact (Tensor.pointwise_noWarning _ _ _).bind fun rest => Outcome.noWarning_ok _

end NewtonEquation

namespace LinearState

def ending (r : Run α (LinearState α)) : Event α :=
  .stopped "Newton equation solver" .debug r.iteration r.stop.reason

variable {e : NewtonEquation α} (noWarning : e.NoWarning) (skipsDebug : Event.SkipsDebug picks)

include noWarning skipsDebug

theorem step_silent (k : Int) : Silent picks (fun _ => True) (step e k) := by
  refine Running.getOwn_silent fun run _ => ?_
  extract_lets solving
  have silent (first : Option (Tensor α)) : Silent picks (fun _ => True) (solving first) := by
    simp only [solving]
    cases e.system with
    | none =>
      refine (Stage.silent_liftM ?_).bind fun _ => Stage.silent_throw rfl
      unfold start
      split <;> simp
    | some system =>
      refine (Stage.silent_liftM (solveBy_noWarning _ _ _ _ _)).bind fun c => ?_
      refine (Stage.silent_liftM (noWarning.vector c)).bind fun v => ?_
      refine (Running.modifyOwn_silent fun _ _ => trivial).bind fun _ => ?_
      refine (Stage.silent_liftM (noWarning.residualNorm v)).bind fun rest => ?_
      exact Stage.silent_emit (skipsDebug _ rfl rfl)
  cases run.own.vector with
  | none => exact (Stage.silent_pure _).bind silent
  | some v =>
    exact (Stage.silent_liftM (noWarning.coordinates v)).bind fun c =>
      (Stage.silent_pure _).bind silent

theorem solver_logs : (solver e).Logs picks (fun _ => True) fun _ _ => [] := by
  refine .of_silent skipsDebug (fun x _ => ?_) (Stage.silent_pure ())
    (step_silent noWarning skipsDebug)
  exact {
    manifold := e.manifold_noWarning
    noWarning := fun M => NewtonEquation.noWarning_of_manifold
    iterate := Outcome.noWarning_ok _
    direction := Outcome.noWarning_ok _
    subgradient := Outcome.noWarning_error.mpr rfl
    cost := nofun }

omit noWarning skipsDebug in
theorem solve_keeps_vector (e : NewtonEquation α) (allowance : Nat) :
    Keeps (fun s => ∃ v, s.state.own.vector = some v) ((solver e).solve allowance none) := by
  have stepped (k : Int) : Keeps (fun s => ∃ v, s.state.own.vector = some v) (step e k) :=
    step_keeps (I := fun r => ∃ v, r.own.vector = some v) fun r v _ _ => ⟨v, rfl⟩
  exact (Solver.preserves_own (P := fun (own : LinearState α) _ => ∃ v, own.vector = some v)
    (keeps_pure ()) stepped).solve allowance

variable (passed : ∀ k size, picks (.completed "Newton equation solver" k size) = false)
  {p : Tensor α} {s t : Stage α (Run α (LinearState α))}

include passed

theorem solve_ok {allowance : Nat} (done : (solver e).solve allowance none s = .ok () t) :
    t.trail.log picks = s.trail.log picks ++ reports picks [ending t.state] := by
  obtain ⟨begun, completed, recorded, ends⟩ := (solver e).solve_ends none s allowance
  rw [done] at ends
  obtain ⟨-, -, counted⟩ := ends.of_returned rfl
  rw [ending, counted]
  exact ends.log_of_silent trivial (solver_logs noWarning skipsDebug) passed rfl (Int.le_refl _)

theorem solve_error {allowance : Nat} {fault : Fault α}
    (failed : (solver e).solve allowance none s = .error fault t) :
    t.trail.log picks = s.trail.log picks ++ reports picks fault.warnings := by
  obtain ⟨begun, completed, recorded, ends⟩ := (solver e).solve_ends none s allowance
  rw [failed] at ends
  exact ends.log_of_silent trivial (solver_logs noWarning skipsDebug) passed rfl (Int.le_refl _)

theorem rerun_ok {v : Tensor α} (done : rerun e p s = .ok v t) :
    t.trail.log picks = s.trail.log picks ++ reports picks [ending t.state] := by
  rw [rerun, Running.modifyOwn_bind] at done
  obtain ⟨_, u, solved, rest⟩ := bind_eq_ok.mp done
  rw [Running.getOwn_bind] at rest
  cases current : u.state.own.vector with
  | none =>
    rw [current] at rest
    cases rest
  | some w =>
    rw [current] at rest
    cases rest
    exact (solve_ok noWarning skipsDebug passed solved :)

theorem rerun_error {fault : Fault α} (failed : rerun e p s = .error fault t) :
    t.trail.log picks = s.trail.log picks ++ reports picks fault.warnings := by
  rw [rerun, Running.modifyOwn_bind] at failed
  rcases bind_eq_error.mp failed with unsolved | ⟨_, u, solved, rest⟩
  · exact (solve_error noWarning skipsDebug passed unsolved :)
  · obtain ⟨v, current⟩ := (solve_keeps_vector e _).of_ok ⟨p, rfl⟩ solved
    rw [Running.getOwn_bind, current] at rest
    cases rest

end LinearState

/-- A sub-solver that reports nothing of its own: a function of the caller that does not, or the
solver of the equation in coordinates. -/
inductive Subsolver.NoReports (problem : RootProblem α) : Subsolver α → Prop
  | allocating {f : DirectionFunction α}
    (noReports : ∀ frame k, (f.allocating problem frame k).NoReports) :
    NoReports problem (.allocating f)
  | inPlace {f : DirectionFunction α}
    (noReports : ∀ buffer frame k, (f.inPlace (.ok buffer) problem frame k).NoReports) :
    NoReports problem (.inPlace f)
  | nested {e : NewtonEquation α} {r : Run α (LinearState α)} :
    NoReports problem (.nested e (.linear r))

def Subsolver.linear? : Subsolver α → Option (Run α (LinearState α))
  | nested _ (.linear r) => some r
  | _ => none

namespace Newton

def innerSolve? (problem : RootProblem α) (k : Int) (s : Stage α (Run α (NewtonState α))) :
    Option (Run α (LinearState α)) := do
  let computed ← value? (computeDirection problem k s)
  computed.2.state.own.subsolver.linear?

def directionReports (picks : Event α → Bool) (problem : RootProblem α) (k : Int)
    (s : Stage α (Run α (NewtonState α))) : List (Level × Event α) :=
  reports picks ((innerSolve? problem k s).toList.map LinearState.ending)

variable {problem : RootProblem α} (noReports : problem.NoReports) {k : Int}
  {s t : Stage α (Run α (NewtonState α))} {frame : Frame α} {e e' : NewtonEquation α}
  {inner : InnerRun α} {r : Run α (LinearState α)} {v : Tensor α} {fault : Fault α}

include noReports

theorem pose_ok (done : pose problem frame e inner s = .ok e' t) :
    ∃ u, t = holding e' inner s u ∧ u.events = s.trail.events ∧
      e'.source = some (problem, frame.point) := by
  have system := noReports.newtonSystem frame.point frame.residualPoint frame.transport
  have quiet := system.quiet s.trail
  cases given : problem.newtonSystem frame.point frame.residualPoint frame.transport s.trail with
  | error fault u =>
    rw [pose_of_error given] at done
    cases done
  | ok system u =>
    rw [given] at quiet
    rw [pose_of_system given] at done
    obtain ⟨_, -, rest⟩ := liftM_bind_eq_ok.mp done
    cases rest
    exact ⟨u, rfl, quiet, rfl⟩

theorem pose_error (failed : pose problem frame e inner s = .error fault t) :
    t.trail.events = s.trail.events ∧ fault.warnings = [] := by
  have system := noReports.newtonSystem frame.point frame.residualPoint frame.transport
  have quiet := system.quiet s.trail
  cases given : problem.newtonSystem frame.point frame.residualPoint frame.transport s.trail with
  | error fault' u =>
    rw [given] at quiet
    rw [pose_of_error given] at failed
    cases failed
    exact ⟨quiet, system.noWarning _ _ _ given⟩
  | ok system u =>
    rw [given] at quiet
    rw [pose_of_system given] at failed
    rcases bind_eq_error.mp failed with refused | ⟨_, _, _, impossible⟩
    · obtain ⟨unchecked, rfl⟩ := liftM_eq_error.mp refused
      exact ⟨quiet, ConditionCheck.run_noWarning _ _ _ _ unchecked⟩
    · cases impossible

omit noReports in
theorem solveFrom_linear {M : Manifold α} (known : e.manifold = .ok M) (u : Trail α)
    (p : Tensor α) :
    InnerRun.solveFrom e p ⟨u, .linear r⟩ =
      Stage.within (fun _ => r) (fun r _ => .linear r) (LinearState.rerun e p)
        ⟨u, (.linear r : InnerRun α)⟩ := by
  rw [InnerRun.solveFrom, known]
  rfl

variable (skipsDebug : Event.SkipsDebug picks)
  (passed : ∀ k size, picks (.completed "Newton equation solver" k size) = false)

include skipsDebug passed

theorem solveNested_ok (done : solveNested problem frame e (.linear r) s = .ok v t) :
    ∃ e' r', t.state.own.subsolver = .nested e' (.linear r') ∧
      t.trail.log picks = s.trail.log picks ++ reports picks [LinearState.ending r'] := by
  obtain ⟨e', _, posed, rest⟩ := bind_eq_ok.mp done
  obtain ⟨u, rfl, quiet, source⟩ := pose_ok noReports posed
  have noWarning : e'.NoWarning := fun problem' base same => by
    cases source.symm.trans same
    exact noReports.manifold
  obtain ⟨w, solved, rfl⟩ := Stage.within_eq_ok.mp rest
  cases known : e'.manifold with
  | error fault =>
    rw [InnerRun.solveFrom, known] at solved
    cases solved
  | ok M =>
    rw [solveFrom_linear known] at solved
    obtain ⟨x, reran, rfl⟩ := Stage.within_eq_ok.mp solved
    refine ⟨e', x.state, rfl, ?_⟩
    rw [← Trail.log_congr quiet]
    exact LinearState.rerun_ok noWarning skipsDebug passed reran

theorem solveNested_error (failed : solveNested problem frame e (.linear r) s = .error fault t) :
    t.trail.log picks = s.trail.log picks ++ reports picks fault.warnings := by
  rcases bind_eq_error.mp failed with unposed | ⟨e', _, posed, rest⟩
  · obtain ⟨quiet, noWarning⟩ := pose_error noReports unposed
    rw [noWarning, Event.reports_nil, List.append_nil, Trail.log_congr quiet]
  obtain ⟨u, rfl, quiet, source⟩ := pose_ok noReports posed
  have noWarning : e'.NoWarning := fun problem' base same => by
    cases source.symm.trans same
    exact noReports.manifold
  obtain ⟨w, unsolved, rfl⟩ := Stage.within_eq_error.mp rest
  rw [← Trail.log_congr quiet]
  cases known : e'.manifold with
  | error fault =>
    rw [InnerRun.solveFrom, known] at unsolved
    cases unsolved
    rw [e'.manifold_noWarning _ known, Event.reports_nil, List.append_nil]
    rfl
  | ok M =>
    rw [solveFrom_linear known] at unsolved
    obtain ⟨x, broken, rfl⟩ := Stage.within_eq_error.mp unsolved
    exact LinearState.rerun_error noWarning skipsDebug passed broken

omit noReports skipsDebug passed in
theorem callback_logged {m : Attempt α (Trail α) (Tensor α)} (quiet : m.NoReports)
    (same : computeDirection problem k s = Stage.onTrail m s)
    (apart : s.state.own.subsolver.linear? = none)
    (given : s.state.own.subsolver.NoReports problem) :
    Logged picks (fun r : Run α (NewtonState α) => r.own.subsolver.NoReports problem)
      (s.trail.log picks ++ directionReports picks problem k s) (computeDirection problem k s) := by
  have none : innerSolve? problem k s = none := by
    rw [innerSolve?, same]
    cases computed : Stage.onTrail m s with
    | ok v t =>
      obtain ⟨u, -, rfl⟩ := Stage.onTrail_eq_ok.mp computed
      exact apart
    | error e t => rfl
  rw [directionReports, none, same]
  change Logged picks _ (_ ++ []) _
  rw [List.append_nil]
  exact Stage.silent_onTrail quiet s given

theorem nested_logged (same : computeDirection problem k s =
    solveNested problem s.state.own.frame e (.linear r) s) :
    Logged picks (fun r : Run α (NewtonState α) => r.own.subsolver.NoReports problem)
      (s.trail.log picks ++ directionReports picks problem k s) (computeDirection problem k s) := by
  rw [directionReports, innerSolve?, same]
  cases computed : solveNested problem s.state.own.frame e (.linear r) s with
  | ok v t =>
    obtain ⟨e', r', left, log⟩ := solveNested_ok noReports skipsDebug passed computed
    constructor
    · change t.state.own.subsolver.NoReports problem
      rw [left]
      exact .nested
    · refine log.trans ?_
      change _ = _ ++ reports picks ((t.state.own.subsolver.linear?).toList.map LinearState.ending)
      rw [left]
      rfl
  | error e t =>
    refine (solveNested_error noReports skipsDebug passed computed).trans ?_
    exact congrArg (· ++ _) (List.append_nil _).symm

theorem computeDirection_logged (given : s.state.own.subsolver.NoReports problem) :
    Logged picks (fun r : Run α (NewtonState α) => r.own.subsolver.NoReports problem)
      (s.trail.log picks ++ directionReports picks problem k s) (computeDirection problem k s) := by
  generalize chosen : s.state.own.subsolver = subsolver at given
  cases given with
  | @allocating f quiet =>
    refine callback_logged (m := allocatedDirection f problem s.state.own.frame k) ?_ ?_ ?_ ?_
    · refine (quiet _ _).bind fun v => ?_
      cases v with
      | none => exact .throw rfl
      | some v => exact .pure v
    · rw [computeDirection, Running.getOwn_bind, chosen]
    · rw [chosen]
      rfl
    · exact chosen ▸ .allocating quiet
  | @inPlace f quiet =>
    let buffer := if s.state.own.isSame then s.state.own.direction else s.state.own.point.zerosLike
    refine callback_logged (m := bufferedDirection f (.ok buffer) problem s.state.own.frame k)
      ?_ ?_ ?_ ?_
    · refine (quiet _ _ _).bind fun v => ?_
      cases v with
      | none => exact .throw rfl
      | some v => exact .pure v
    · rw [computeDirection, Running.getOwn_bind, chosen]
    · rw [chosen]
      rfl
    · exact chosen ▸ .inPlace quiet
  | @nested e r =>
    refine nested_logged (e := e) (r := r) noReports skipsDebug passed ?_
    rw [computeDirection, Running.getOwn_bind, chosen]

def trialStages (problem : RootProblem α) (k : Int) (s : Stage α (Run α (NewtonState α))) :
    List (Stage α (Run α (NewtonState α))) :=
  match s.state.own.stepsize with
  | .damped d => (dampingSearch problem k s.state.own).runStages d s
  | _ => []

def directionStages (problem : RootProblem α) (k : Int) (s : Stage α (Run α (NewtonState α))) :
    List (Stage α (Run α (NewtonState α))) :=
  beginning s ::
    match computeDirection problem k (beginning s) with
    | .ok v t => trialStages problem k (withDirection v t)
    | .error _ _ => []

def solveReports (picks : Event α → Bool) (problem : RootProblem α) (k : Int)
    (s : Stage α (Run α (NewtonState α))) : List (Level × Event α) :=
  (directionStages problem k s).flatMap (directionReports picks problem k)

omit noReports skipsDebug passed in
theorem notes_keep_noReports :
    DampingSearch.NotesKeep (fun x : NewtonState α => x.subsolver.NoReports problem)
    NewtonState.notes :=
  ⟨fun _ _ => id, fun _ _ => id, fun _ _ => id, fun _ _ => id⟩

theorem stepLength_logged (given : s.state.own.subsolver.NoReports problem) :
    Logged picks (fun r : Run α (NewtonState α) => r.own.subsolver.NoReports problem)
      (s.trail.log picks ++
        (trialStages problem k s).flatMap (directionReports picks problem k))
      (stepLength problem k s) := by
  rw [stepLength, Running.getOwn_bind, trialStages]
  cases s.state.own.stepsize with
  | rule r =>
    rw [List.flatMap_nil, List.append_nil]
    exact Stage.silent_liftM (r.lengthAt_noWarning noReports.manifold _ _ _) s given
  | damped d =>
    have manifold : (dampingSearch problem k s.state.own).manifold.NoWarning := noReports.manifold
    exact DampingSearch.run_logged skipsDebug manifold notes_keep_noReports
      (fun _ => computeDirection_logged noReports skipsDebug passed) given
  | inert v =>
    rw [List.flatMap_nil, List.append_nil]
    exact .of_noWarning rfl rfl

theorem goAlong_logged (given : s.state.own.subsolver.NoReports problem) :
    Logged picks (fun r : Run α (NewtonState α) => r.own.subsolver.NoReports problem)
      (s.trail.log picks ++
        (trialStages problem k s).flatMap (directionReports picks problem k))
      (goAlong problem k s) := by
  refine (stepLength_logged noReports skipsDebug passed given).bind fun length => ?_
  refine (Running.setStepsize_silent fun _ => id).bind fun _ => ?_
  refine Running.getOwn_silent fun run _ => ?_
  refine (Stage.silent_emit (skipsDebug _ rfl rfl)).bind fun _ => ?_
  refine (Stage.silent_liftM (noReports.manifold.retract _ _ _)).bind fun p => ?_
  exact Running.modifyOwn_silent fun _ => id

theorem step_logged (given : s.state.own.subsolver.NoReports problem) :
    Logged picks (fun r : Run α (NewtonState α) => r.own.subsolver.NoReports problem)
      (s.trail.log picks ++ solveReports picks problem k s) (step problem k s) := by
  change Logged picks _ _ (goFrom problem k (beginning s))
  have logged := computeDirection_logged (s := beginning s) noReports skipsDebug passed (k := k) given
  rw [solveReports, directionStages, List.flatMap_cons]
  cases computed : computeDirection problem k (beginning s) with
  | ok v t =>
    rw [computed] at logged
    rw [goFrom, bind_of_ok computed, Running.modifyOwn_bind, ← List.append_assoc]
    have along := goAlong_logged (s := withDirection v t) noReports skipsDebug passed (k := k) logged.1
    rwa [show (withDirection v t).trail.log picks = _ from logged.2] at along
  | error e t =>
    rw [computed] at logged
    rw [goFrom, bind_of_error computed, List.flatMap_nil, List.append_nil]
    exact logged

omit noReports skipsDebug passed in
theorem setUp_silent :
    Silent picks (fun r : Run α (NewtonState α) => r.own.subsolver.NoReports problem) setUp :=
  (Running.modifyOwn_silent fun _ => id).bind fun _ => Running.setStepsize_silent fun _ => id

theorem solver_logs {cost : Option (Tensor α → Attempt α (Trail α) α)}
    (costs : ∀ f ∈ cost, ∀ p, (f p).NoReports) :
    (solver problem cost).Logs picks (fun x => x.subsolver.NoReports problem)
      (solveReports picks problem) where
  skipsDebug := skipsDebug
  shown x _ := {
    manifold := Outcome.noWarning_ok _
    noWarning := fun M known => by
      cases known
      exact noReports.manifold
    iterate := Outcome.noWarning_ok _
    direction := Outcome.noWarning_ok _
    subgradient := Outcome.noWarning_error.mpr rfl
    cost := costs }
  setUp := setUp_silent
  step _ _ := step_logged noReports skipsDebug passed

end Newton

end ManifoldOpt
