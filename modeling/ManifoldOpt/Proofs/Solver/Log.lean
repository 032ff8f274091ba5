import ManifoldOpt.Proofs.Log
import ManifoldOpt.Proofs.Solver.Interruption
import ManifoldOpt.Proofs.Stopping.Tree

set_option autoImplicit false

namespace ManifoldOpt

open Attempt
open Event (reports)
open Stage (Logged Silent)

variable {α S : Type} [Scalar α] {picks : Event α → Bool}

structure View.NoReports (view : View α) : Prop where
  manifold : view.manifold.NoWarning
  noWarning : ∀ M, view.manifold = .ok M → M.NoWarning
  iterate : view.iterate.NoWarning
  direction : view.direction.NoWarning
  subgradient : view.subgradient.NoWarning
  cost : ∀ f ∈ view.cost, ∀ p, (f p).NoReports

theorem View.NoReports.point {view : View α} (noReports : view.NoReports) : view.point.NoWarning := by
  refine noReports.iterate.bind fun p => ?_
  cases p with
  | none => exact Outcome.noWarning_error.mpr rfl
  | some p => exact Outcome.noWarning_ok p

theorem withoutArrays_noWarning {operation : Tensor α → Tensor α → Outcome α α}
    (noWarning : ∀ x y, (operation x y).NoWarning) : (withoutArrays operation).NoWarning :=
  (noWarning _ _).bind fun _ => Outcome.noWarning_error.mpr rfl

theorem distBetween_noWarning {M : Manifold α} (noWarning : M.NoWarning) (p q : Option (Tensor α)) :
    (distBetween M p q).NoWarning := by
  unfold distBetween
  split
  · exact noWarning.distNumber _ _
  · exact withoutArrays_noWarning noWarning.distNumber

theorem normAt_noWarning {M : Manifold α} (noWarning : M.NoWarning) (p v : Option (Tensor α)) :
    (normAt M p v).NoWarning := by
  unfold normAt
  split
  · exact noWarning.normNumber _ _
  · exact withoutArrays_noWarning noWarning.normNumber

namespace Criterion

variable (skipsDebug : Event.SkipsDebug picks) {view : View α}
  (noReports : view.NoReports) (k : Int)

omit [Scalar α] in
theorem change_silent (c : Criterion α) (f : Cell α → Cell α) :
    Silent picks (fun _ => True) (c.change f) := Stage.silent_modify fun _ _ => trivial

omit [Scalar α] in
theorem reset_if_silent {β : Type} (c : Criterion α) {rest : Check α β}
    (silent : Silent picks (fun _ => True) rest) :
    Silent picks (fun _ => True) (do
      if k = 0 then c.change Cell.reset
      rest) :=
  .ite ((change_silent c _).bind fun _ => silent) silent

omit [Scalar α] in
theorem reasons_silent (parts : List (Criterion α)) (fired : List Bool) :
    Silent picks (fun _ => True) (reasons parts fired) :=
  .getState_bind fun _ _ => Stage.silent_pure _

include skipsDebug

omit [Scalar α] in
theorem fire_silent (c : Criterion α) (reason : List (Cause α)) :
    Silent picks (fun _ => True) (c.fire k reason) :=
  (change_silent c _).bind fun _ => (Stage.silent_emit (skipsDebug _ rfl rfl)).bind fun _ =>
    Stage.silent_pure true

theorem checkBudget_silent (c : Criterion α) (limit : Number α) :
    Silent picks (fun _ => True) (c.checkBudget limit k) :=
  reset_if_silent k c (.ite (fire_silent skipsDebug k c _) (Stage.silent_pure _))

include noReports

theorem checkChange_silent (c : Criterion α) (tolerance : Number α) :
    Silent picks (fun _ => True) (c.checkChange tolerance view k) := by
  refine .lift_bind noReports.manifold fun M known => ?_
  refine (Stage.silent_liftM noReports.iterate).bind fun current => .ite ?_ ?_
  · refine (change_silent c _).bind fun _ => (Stage.silent_liftM noReports.point).bind fun p => ?_
    exact (change_silent c _).bind fun _ => Stage.silent_pure _
  · refine .bind (.getState_bind fun memory _ => Stage.silent_pure _) fun cell => ?_
    refine (Stage.silent_liftM (distBetween_noWarning (noReports.noWarning M known) _ _)).bind
      fun size => ?_
    refine (change_silent c _).bind fun _ => ?_
    exact .ite (fire_silent skipsDebug k c _) (Stage.silent_pure _)

theorem checkSubgradient_silent (c : Criterion α) (tolerance : Number α) :
    Silent picks (fun _ => True) (c.checkSubgradient tolerance view k) := by
  refine .ite ((change_silent c _).bind fun _ => Stage.silent_pure _) ?_
  refine .lift_bind noReports.manifold fun M known => ?_
  refine (Stage.silent_liftM noReports.subgradient).bind fun (p, v) => ?_
  refine (Stage.silent_liftM ((noReports.noWarning M known).normNumber p v)).bind fun size => ?_
  exact .ite (fire_silent skipsDebug k c _) (Stage.silent_pure _)

omit skipsDebug noReports in
theorem checkEach_silent {parts : List (Criterion α)}
    (each : ∀ c ∈ parts, Silent picks (fun _ => True) (check view k c)) :
    Silent picks (fun _ => True) (checkEach view k parts) := by
  induction parts with
  | nil => exact Stage.silent_pure []
  | cons c rest ih =>
    refine (each c List.mem_cons_self).bind fun first => ?_
    refine (ih fun d member => each d (List.mem_cons_of_mem c member)).bind fun others => ?_
    exact Stage.silent_pure _

theorem check_silent (c : Criterion α) : Silent picks (fun _ => True) (check view k c) := by
  induction c with
  | base cell => exact Stage.silent_throw rfl
  | afterIteration cell limit => exact checkBudget_silent skipsDebug k _ limit
  | changeLess cell tolerance => exact checkChange_silent skipsDebug noReports k _ tolerance
  | subgradientNormLess cell tolerance =>
    exact checkSubgradient_silent skipsDebug noReports k _ tolerance
  | any cell parts ih =>
    refine reset_if_silent k _ ((checkEach_silent k ih).bind fun fired => ?_)
    refine .ite ((reasons_silent parts fired).bind fun _ => ?_) (Stage.silent_pure _)
    exact fire_silent skipsDebug k _ _
  | all cell parts ih =>
    refine reset_if_silent k _ ((checkEach_silent k ih).bind fun fired => ?_)
    refine .ite ((reasons_silent parts fired).bind fun _ => ?_) (Stage.silent_pure _)
    exact fire_silent skipsDebug k _ _

end Criterion

namespace Recorder

variable {view : View α} (noReports : view.NoReports)

include noReports

theorem measure_noReports (stepsize : Option α) (k : Int) (previous : Option (Tensor α))
    (f : Field) : (measure view stepsize k previous f).NoReports := by
  cases f with
  | iteration => exact .pure _
  | iterate =>
    exact (NoReports.liftM noReports.manifold).bind fun _ =>
      (NoReports.liftM noReports.point).bind fun p => .pure _
  | change =>
    refine .lift_bind noReports.manifold fun M known => ?_
    refine (NoReports.liftM noReports.iterate).bind fun p => ?_
    exact (NoReports.liftM (distBetween_noWarning (noReports.noWarning M known) _ _)).bind
      fun size => .pure _
  | cost =>
    unfold measure
    cases given : view.cost with
    | none => exact .throw rfl
    | some cost =>
      refine (NoReports.liftM noReports.iterate).bind fun p => ?_
      cases p with
      | none => exact .throw rfl
      | some p => exact (noReports.cost cost given p).bind fun c => .pure _
  | stepsize => exact .pure _
  | directionNorm =>
    refine .lift_bind noReports.manifold fun M known => ?_
    refine (NoReports.liftM noReports.direction).bind fun v => ?_
    exact (NoReports.liftM (normAt_noWarning (noReports.noWarning M known) _ _)).bind
      fun size => .pure _

theorem start_silent : Silent picks (fun _ => True) (start view) := by
  refine (Stage.silent_modify fun _ _ => trivial).bind fun _ => ?_
  refine (Stage.silent_liftM noReports.manifold).bind fun _ => ?_
  refine (Stage.silent_liftM noReports.point).bind fun p => ?_
  exact Stage.silent_modify fun _ _ => trivial

theorem record_silent (stepsize : Option α) (k : Int) :
    Silent picks (fun _ => True) (record view stepsize k) := by
  have each (fields : List Field) :
      Silent picks (fun _ => True) (recordEach view stepsize k fields) := by
    induction fields with
    | nil => exact Stage.silent_pure ()
    | cons f rest ih =>
      refine .getState_bind fun r _ => ?_
      refine (Stage.silent_onTrail (measure_noReports noReports _ _ _ _)).bind fun entry => ?_
      exact (Stage.silent_modify fun _ _ => trivial).bind fun _ => ih
  refine .getState_bind fun r _ => (each r.fields).bind fun _ => ?_
  refine (Stage.silent_liftM noReports.manifold).bind fun _ => ?_
  refine (Stage.silent_liftM noReports.point).bind fun p => ?_
  exact Stage.silent_modify fun _ _ => trivial

end Recorder

namespace Solver

def stepStart (solver : Solver α S) (recorder : Option (Recorder α)) (first : Stage α (Run α S))
    (n : Nat) : Option (Stage α (Run α S)) := do
  let s ← solver.reach recorder first n
  let asked ← value? (solver.shouldStop n s)
  guard (asked.1 = false)
  return asked.2

def stepsizeAfter (solver : Solver α S) (recorder : Option (Recorder α))
    (first : Stage α (Run α S)) (n : Nat) : Option α :=
  (solver.reach recorder first n).bind fun s => s.state.lastStepsize

/-- Of a solver that goes through states with a property a reader picks what the driver reports, and
of each step the given reports. -/
structure Logs (solver : Solver α S) (picks : Event α → Bool) (J : S → Prop)
    (added : Int → Stage α (Run α S) → List (Level × Event α)) : Prop where
  skipsDebug : Event.SkipsDebug picks
  shown : ∀ x, J x → (solver.view x).NoReports
  setUp : Silent picks (fun r => J r.own) solver.setUp
  step : ∀ k s, J s.state.own →
    Logged picks (fun r => J r.own) (s.trail.log picks ++ added k s) (solver.step k s)

theorem Logs.of_silent {solver : Solver α S} {J : S → Prop} (skipsDebug : Event.SkipsDebug picks)
    (shown : ∀ x, J x → (solver.view x).NoReports)
    (setUp : Silent picks (fun r => J r.own) solver.setUp)
    (step : ∀ k, Silent picks (fun r => J r.own) (solver.step k)) :
    solver.Logs picks J fun _ _ => [] where
  skipsDebug := skipsDebug
  shown := shown
  setUp := setUp
  step k s before := by
    rw [List.append_nil]
    exact step k s before

variable {solver : Solver α S} {J : S → Prop}
  {added : Int → Stage α (Run α S) → List (Level × Event α)} {recorder : Option (Recorder α)}
  {first : Stage α (Run α S)}

theorem Course.reach_eq {n : Nat} {stages : Nat → Stage α (Run α S)}
    (course : Course solver recorder first n stages) {k : Nat} (inside : k ≤ n) :
    solver.reach recorder first k = some (stages k) := by
  induction k with
  | zero => rw [reach, course.prepared]; rfl
  | succ k ih =>
    obtain ⟨t, going, iterated⟩ := course.continued k inside
    rw [reach, ih (by omega)]
    change (do
      let asked ← value? (solver.shouldStop k (stages k))
      guard (asked.1 = false)
      (value? (solver.iterate (k + 1) asked.2)).map Prod.snd) = _
    rw [going]
    change (value? (solver.iterate (k + 1) t)).map Prod.snd = _
    rw [iterated]
    rfl

theorem stepStart_of_going {n : Nat} {s t : Stage α (Run α S)}
    (reached : solver.reach recorder first n = some s)
    (going : solver.shouldStop n s = .ok false t) :
    solver.stepStart recorder first n = some t := by
  rw [stepStart, reached]
  change (do
    let asked ← value? (solver.shouldStop n s)
    guard (asked.1 = false)
    return asked.2) = _
  rw [going]
  rfl

omit [Scalar α] in
theorem withRecorder_silent {m : Attempt α (Stage α (Recorder α)) Unit}
    (silent : Silent picks (fun _ => True) m) :
    Silent picks (fun r : Run α S => J r.own) (withRecorder m) := by
  refine .getState_bind fun r before => ?_
  cases r.recorder with
  | none => exact Stage.silent_pure ()
  | some recorder => exact silent.within (fun _ _ => trivial) fun _ _ before _ => before

namespace Logs

variable (logs : solver.Logs picks J added)

include logs

theorem startRecorder_silent : Silent picks (fun r => J r.own) solver.startRecorder :=
  .getState_bind fun r before =>
    withRecorder_silent (Recorder.start_silent (logs.shown r.own before))

theorem recordIteration_silent (k : Int) :
    Silent picks (fun r => J r.own) (solver.recordIteration k) :=
  .getState_bind fun r before =>
    withRecorder_silent (Recorder.record_silent (logs.shown r.own before) _ k)

theorem shouldStop_silent (k : Int) : Silent picks (fun r => J r.own) (solver.shouldStop k) := by
  refine .getState_bind fun r before => ?_
  have asked := Criterion.check_silent logs.skipsDebug (logs.shown r.own before) k r.stop.root
  exact asked.within (fun _ _ => trivial) fun _ _ before _ => before

theorem prepare_silent (recorder : Option (Recorder α)) :
    Silent picks (fun r : Run α S => J r.own) (solver.prepare recorder) := by
  intro first before
  rw [prepare_eq]
  have set := logs.setUp ⟨first.trail, first.state.attach recorder⟩ before
  refine set.bind fun _ => .bind ?_ fun _ => logs.startRecorder_silent
  exact Stage.silent_modify fun _ before => before

section Iterate

variable {k : Int} {s t : Stage α (Run α S)} (before : J s.state.own)

include before

theorem iterate_ok (iterated : solver.iterate k s = .ok () t) :
    J t.state.own ∧ t.trail.log picks = s.trail.log picks ++
      (added k s ++ reports picks [.completed solver.name k t.state.lastStepsize]) := by
  obtain ⟨u, v, stepped, noted, rfl⟩ := iterate_eq_ok iterated
  have logged := logs.step k s before
  rw [stepped] at logged
  obtain ⟨after, log⟩ := logged
  obtain ⟨after', log'⟩ := (logs.recordIteration_silent k).of_ok (s := u.counted k) after noted
  refine ⟨after', ?_⟩
  rw [Stage.log_noting, log', ← List.append_assoc]
  exact congrArg (· ++ _) log

theorem iterate_error {e : Fault α} (failed : solver.iterate k s = .error e t) :
    t.trail.log picks = s.trail.log picks ++ added k s ++ reports picks e.warnings := by
  have logged := logs.step k s before
  rcases iterate_eq_error.mp failed with failed | ⟨u, stepped, failed⟩
  · rw [failed] at logged
    exact logged
  · rw [stepped] at logged
    rw [← logged.2]
    exact (logs.recordIteration_silent k).of_error (s := u.counted k) logged.1 failed

end Iterate

end Logs

section Whole

variable (solver picks added recorder first)

def stepReports (k : Nat) : List (Level × Event α) :=
  (solver.stepStart recorder first k).elim [] (added (k + 1))

def iterationReports (k : Nat) : List (Level × Event α) :=
  solver.stepReports added recorder first k ++ reports picks
    [.completed solver.name (k + 1) (solver.stepsizeAfter recorder first (k + 1))]

def closingReports (level : Level) (n : Nat) :
    EStateM.Result (Fault α) (Stage α (Run α S)) Unit → List (Level × Event α)
  | .ok _ t => reports picks [.stopped solver.name level n t.state.stop.reason]
  | .error e _ => reports picks e.warnings

theorem stepReports_nil (k : Nat) :
    solver.stepReports (fun _ _ => []) recorder first k = [] := by
  unfold stepReports
  cases solver.stepStart recorder first k <;> rfl

theorem iterationReports_nil (k : Nat) :
    solver.iterationReports picks (fun _ _ => []) recorder first k = reports picks
      [.completed solver.name (k + 1) (solver.stepsizeAfter recorder first (k + 1))] := by
  rw [iterationReports, stepReports_nil, List.nil_append]

end Whole

theorem finish_eq {level : Level} (known : solver.level = .ok level)
    (loud : Level.debug.number ≤ level.number) (k : Int) (s : Stage α (Run α S)) :
    solver.finish k s =
      .ok () (Stage.noting (.stopped solver.name level k s.state.stop.reason) s) := by
  rw [finish, Stage.getState_bind, known, liftM_ok_bind, if_pos loud]
  rfl

theorem Ends.of_returned {last : Stage α (Run α S)} {allowance begun completed recorded : Nat}
    {result : EStateM.Result (Fault α) (Stage α (Run α S)) Unit}
    (ends : Ends solver allowance recorder first begun completed recorded result)
    (returned : result = .ok () last) :
    begun = recorded ∧ completed = recorded ∧ last.state.iteration = recorded := by
  cases ends with
  | unprepared failed => cases returned
  | after course ending =>
    cases ending with
    | exhausted spent => cases returned
    | stopped unspent fired =>
      obtain ⟨memory, left⟩ := shouldStop_state fired
      refine ⟨rfl, rfl, ?_⟩
      rw [finish_state returned, left]
      exact course.iteration_eq (Nat.le_refl _)
    | unanswered unspent failed => cases returned
    | interrupted unspent going failed => cases returned
    | unrecorded unspent going stepped failed => cases returned

variable (logs : solver.Logs picks J added) (before : J first.state.own)

include logs before

theorem Course.log {n : Nat} {stages : Nat → Stage α (Run α S)}
    (course : Course solver recorder first n stages) {k : Nat} (inside : k ≤ n) :
    J (stages k).state.own ∧ (stages k).trail.log picks = first.trail.log picks ++
      (List.range k).flatMap (solver.iterationReports picks added recorder first) := by
  induction k with
  | zero =>
    have logged := logs.prepare_silent recorder first before
    rw [course.prepared] at logged
    rw [List.range_zero, List.flatMap_nil, List.append_nil]
    exact logged
  | succ k ih =>
    obtain ⟨inside', log⟩ := ih (by omega)
    obtain ⟨t, going, iterated⟩ := course.continued k inside
    obtain ⟨asked, log'⟩ := (logs.shouldStop_silent k).of_ok inside' going
    obtain ⟨after, log''⟩ := logs.iterate_ok asked iterated
    have begun : solver.stepStart recorder first k = some t :=
      stepStart_of_going (course.reach_eq (by omega)) going
    have size : solver.stepsizeAfter recorder first (k + 1) =
        (stages (k + 1)).state.lastStepsize := by
      rw [stepsizeAfter, course.reach_eq inside]
      rfl
    refine ⟨after, ?_⟩
    rw [log'', log', log, List.range_succ, List.flatMap_append, List.flatMap_singleton,
      iterationReports, stepReports, begun, size, List.append_assoc]
    rfl

theorem Ends.log {level : Level} (known : solver.level = .ok level)
    (loud : Level.debug.number ≤ level.number) {allowance begun completed recorded : Nat}
    {result : EStateM.Result (Fault α) (Stage α (Run α S)) Unit}
    (ends : Ends solver allowance recorder first begun completed recorded result) :
    (left result).trail.log picks = first.trail.log picks ++
      (List.range recorded).flatMap (solver.iterationReports picks added recorder first) ++
      (if recorded < begun then solver.stepReports added recorder first recorded else []) ++
      solver.closingReports picks level recorded result := by
  cases ends with
  | unprepared failed =>
    have logged := logs.prepare_silent recorder first before
    rw [failed] at logged
    rw [List.range_zero, List.flatMap_nil, List.append_nil, if_neg (Nat.lt_irrefl 0),
      List.append_nil]
    exact logged
  | @after n _ _ _ stages _ course ending =>
    obtain ⟨inside, log⟩ := course.log logs before (Nat.le_refl _)
    cases ending with
    | exhausted spent =>
      rw [if_neg (Nat.lt_irrefl _), List.append_nil, ← log]
      exact (List.append_nil _).symm
    | @stopped t unspent fired =>
      rw [if_neg (Nat.lt_irrefl _), List.append_nil, ← log, finish_eq known loud,
        ← ((logs.shouldStop_silent _).of_ok inside fired).2]
      exact Stage.log_noting _ t
    | unanswered unspent failed =>
      rw [if_neg (Nat.lt_irrefl _), List.append_nil, ← log]
      exact (logs.shouldStop_silent _).of_error inside failed
    | @interrupted t _ _ unspent going failed =>
      obtain ⟨asked, log'⟩ := (logs.shouldStop_silent _).of_ok inside going
      have logged := logs.step (completed + 1) t asked
      rw [failed] at logged
      rw [if_pos (Nat.lt_succ_self _), ← log, stepReports,
        stepStart_of_going (course.reach_eq (Nat.le_refl _)) going, ← log']
      exact logged
    | @unrecorded t _ _ _ unspent going stepped failed =>
      obtain ⟨asked, log'⟩ := (logs.shouldStop_silent _).of_ok inside going
      have iterated := iterate_eq_error.mpr (.inr ⟨_, stepped, failed⟩)
      rw [if_pos (Nat.lt_succ_self _), ← log, stepReports,
        stepStart_of_going (course.reach_eq (Nat.le_refl _)) going, ← log']
      exact logs.iterate_error asked iterated

omit logs in
theorem Ends.log_of_silent (logs : solver.Logs picks J fun _ _ => [])
    (passed : ∀ k size, picks (.completed solver.name k size) = false) {level : Level}
    (known : solver.level = .ok level) (loud : Level.debug.number ≤ level.number)
    {allowance begun completed recorded : Nat}
    {result : EStateM.Result (Fault α) (Stage α (Run α S)) Unit}
    (ends : Ends solver allowance recorder first begun completed recorded result) :
    (left result).trail.log picks =
      first.trail.log picks ++ solver.closingReports picks level recorded result := by
  have none (k : Nat) : solver.iterationReports picks (fun _ _ => []) recorder first k = [] := by
    rw [iterationReports_nil, Event.reports_passed (passed _ _)]
  rw [ends.log logs before known loud, List.flatMap_eq_nil_iff.mpr fun k _ => none k,
    stepReports_nil, ite_self, List.append_nil, List.append_nil]

end Solver

end ManifoldOpt
