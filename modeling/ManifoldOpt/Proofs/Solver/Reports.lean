import ManifoldOpt.Proofs.Newton.Step
import ManifoldOpt.Proofs.Solver.Recording
import ManifoldOpt.Proofs.Stopping.LastChange

set_option autoImplicit false

namespace ManifoldOpt

open Attempt

section Views

variable {α : Type} [Scalar α]

/-- A step along the direction that is shown after it, by the given length; `turn` tells in which
sense the direction is followed. -/
structure View.Moved (M : Manifold α) (retraction : Literal α) (turn : α → α) (before now : View α)
    (p v q : Tensor α) (length : α) : Prop where
  start : before.iterate = .ok (some p)
  direction : now.direction = .ok (some v)
  moved : M.retract p (v.scale (turn length)) retraction = .ok q
  reached : now.iterate = .ok (some q)

variable {views : Nat → View α} {sizes : Nat → Option α} {k : Nat}

theorem Reported.change_eq {x : α} (measured : changeSize (views (k - 1)) (views k) = .ok x)
    {entry : Entry α} (reported : Reported views sizes k .change entry) : entry = .number x := by
  cases reported with
  | change measured' =>
    rw [measured] at measured'
    rw [Except.ok.inj measured']

theorem Reported.directionNorm_eq {M : Manifold α} {p v : Tensor α}
    (known : (views k).manifold = .ok M) (shown : (views (k - 1)).iterate = .ok (some p))
    (direction : (views k).direction = .ok (some v)) {x : α} (measured : M.normNumber p v = .ok x)
    {entry : Entry α} (reported : Reported views sizes k .directionNorm entry) :
    entry = .number x := by
  cases reported with
  | directionNorm known' shown' direction' measured' =>
    rw [known] at known'
    rw [shown] at shown'
    rw [direction] at direction'
    cases known'
    cases shown'
    cases direction'
    rw [normAt, measured] at measured'
    rw [Except.ok.inj measured']

end Views

namespace Solver

variable {α S : Type} [Scalar α] {solver : Solver α S} {recorder : Option (Recorder α)}
  {first : Stage α (Run α S)} {n : Nat} {stages : Nat → Stage α (Run α S)} {fields : List Field}
  {allowance completed : Nat} {result : EStateM.Result (Fault α) (Stage α (Run α S)) Unit}

structure RecordedRun (solver : Solver α S) (recorder : Option (Recorder α))
    (first : Stage α (Run α S)) (fields : List Field) (n : Nat) (stages : Nat → Stage α (Run α S))
    (allowance completed : Nat) (result : EStateM.Result (Fault α) (Stage α (Run α S)) Unit) :
    Prop where
  attached : ∃ r, (first.state.attach recorder).recorder = some r ∧ r.fields = fields
  distinct : fields.Nodup
  course : Course solver recorder first n stages
  ending : ∃ begun, Ending solver allowance n (stages n) begun completed n result

theorem Ending.solve_eq {begun recorded : Nat} (course : Course solver recorder first n stages)
    (ending : Ending solver allowance n (stages n) begun completed recorded result) :
    solver.solve allowance recorder first = result := by
  by_cases unspent : n < allowance
  · obtain ⟨more, rfl⟩ := Nat.exists_eq_add_of_lt unspent
    rw [show n + more + 1 = more + 1 + n by omega, course.solve_eq]
    exact ending.loop_eq unspent more
  · cases ending with
    | exhausted spent =>
      subst spent
      have reached := course.solve_eq 0
      rw [Nat.zero_add] at reached
      exact reached
    | stopped unspent' fired => exact absurd unspent' unspent
    | unanswered unspent' failed => exact absurd unspent' unspent
    | interrupted unspent' going failed => exact absurd unspent' unspent
    | unrecorded unspent' going stepped failed => exact absurd unspent' unspent

theorem Ending.stop_eq (leaves : solver.LeavesDriver) {begun recorded : Nat}
    {s : Stage α (Run α S)} (ending : Ending solver allowance n s begun completed recorded result)
    (unspent : n < allowance) {answer : Bool} {t : Stage α (Run α S)}
    (asked : solver.shouldStop n s = .ok answer t) :
    (left result).state.stop = t.state.stop := by
  cases ending with
  | exhausted spent => omega
  | stopped unspent fired =>
    cases asked.symm.trans fired
    rw [finish_left]
  | unanswered unspent failed => cases asked.symm.trans failed
  | interrupted unspent going failed =>
    cases asked.symm.trans going
    exact ((leaves.step _).of_error failed).stop
  | @unrecorded _ u _ _ unspent going stepped failed =>
    cases asked.symm.trans going
    obtain ⟨kept, same⟩ := recordIteration_left solver (n + 1) (u.counted (n + 1))
    rw [failed] at same
    exact (congrArg Run.stop same).trans ((leaves.step _).of_ok stepped).stop

theorem RecordedRun.of_ended {r : Recorder α}
    (attached : (first.state.attach recorder).recorder = some r) (distinct : r.fields.Nodup)
    {last : Stage α (Run α S)} (ended : solver.solve allowance recorder first = .ok () last) :
    ∃ n stages t, RecordedRun solver recorder first r.fields n stages allowance n (.ok () last) ∧
      n < allowance ∧ solver.shouldStop n (stages n) = .ok true t := by
  obtain ⟨begun, completed, recorded, ends⟩ := solve_ends solver recorder first allowance
  rw [ended] at ends
  generalize same : EStateM.Result.ok () last = result at ends ⊢
  cases ends with
  | unprepared failed => cases same
  | @after n _ _ _ stages _ course ending =>
    refine ⟨n, stages, ?_⟩
    have whole (begun : Nat) (ending : Ending solver allowance n (stages n) begun n n result) :
        RecordedRun solver recorder first r.fields n stages allowance n result :=
      ⟨⟨r, attached, rfl⟩, distinct, course, begun, ending⟩
    cases ending with
    | exhausted spent => cases same
    | @stopped t unspent fired => exact ⟨t, whole _ (.stopped unspent fired), unspent, fired⟩
    | unanswered unspent failed => cases same
    | interrupted unspent going failed => cases same
    | unrecorded unspent going stepped failed => cases same

section RecordedRun

variable (leaves : solver.LeavesDriver)
  (run : RecordedRun solver recorder first fields n stages allowance completed result)

include leaves run

theorem RecordedRun.columns {f : Field} (member : f ∈ fields) :
    ∃ entries, (left result).state.column? f = some entries ∧
      (completed = n → entries.length = n) ∧
      ∀ k < n, ∃ entry, entries[k]? = some entry ∧
        Reported (views solver stages) (sizes stages) (k + 1) f entry := by
  obtain ⟨r, attached, rfl⟩ := run.attached
  obtain ⟨begun, ending⟩ := run.ending
  obtain ⟨last, -, whole, columns⟩ := ending.columns_left leaves attached run.course
  obtain ⟨entries, added, column, length, length', reported⟩ := columns f member
  have single := List.count_eq_one_of_mem run.distinct member
  rw [single, Nat.mul_one] at length
  refine ⟨entries ++ added, column, fun complete => ?_, fun k inside => ?_⟩
  · rw [List.length_append, length, length', whole complete]
    rfl
  · rw [List.getElem?_append_left (by omega)]
    exact reported single k inside

theorem RecordedRun.entry_eq {f : Field} (member : f ∈ fields) {k : Nat} (inside : k < n)
    {entry : Entry α}
    (only : ∀ entry', Reported (views solver stages) (sizes stages) (k + 1) f entry' →
      entry' = entry) :
    ((left result).state.column? f).bind (·[k]?) = some entry := by
  obtain ⟨entries, column, -, reported⟩ := run.columns leaves member
  obtain ⟨entry', found, value⟩ := reported k inside
  rw [column, Option.bind_some, found, only entry' value]

end RecordedRun

end Solver

namespace Subgradient

variable {α : Type} [Scalar α]

theorem course_moved {problem : Problem α} {recorder : Option (Recorder α)}
    {first : Stage α (Run α (SubgradientState α))} {n : Nat}
    {stages : Nat → Stage α (Run α (SubgradientState α))}
    (course : Solver.Course (solverFor problem) recorder first n stages) {k : Nat} (inside : k < n) :
    ∃ p v q length,
      View.Moved problem.asCost.manifold (stages k).state.own.retraction Neg.neg
        (Solver.views (solverFor problem) stages k) (Solver.views (solverFor problem) stages (k + 1))
        p v q length ∧
      Solver.sizes stages (k + 1) = some length ∧
      (Solver.views (solverFor problem) stages (k + 1)).subgradient = .ok (p, v) ∧
      ∃ s t, problem.asCost.subgradientInto (stages k).state.own.direction p s = .ok v t := by
  obtain ⟨t, u, memory, kept, stepped, asked, reached⟩ := course.stepped inside
  obtain ⟨v, q, length, cost, best, advance, left⟩ := step_eq_ok stepped
  obtain ⟨traces, own⟩ := advance.left
  have before : t.state.own = (stages k).state.own := by rw [asked]
  have own' : (stages (k + 1)).state.own = u.state.own := by rw [reached]
  rw [before] at own advance
  refine ⟨_, v, q, length, ⟨rfl, ?_, advance.moved, ?_⟩, ?_, ?_, advance.taken⟩
  · simp only [Solver.views, own', own]
    rfl
  · simp only [Solver.views, own', own]
    rfl
  · rw [Solver.sizes, reached, left]
  · simp only [Solver.views, own', own]
    rfl

end Subgradient

namespace Newton

variable {α : Type} [Scalar α]

theorem course_moved {problem : RootProblem α} {cost : Option (Tensor α → Attempt α (Trail α) α)}
    {recorder : Option (Recorder α)} {first : Stage α (Run α (NewtonState α))} {n : Nat}
    {stages : Nat → Stage α (Run α (NewtonState α))}
    (course : Solver.Course (solver problem cost) recorder first n stages) {k : Nat}
    (inside : k < n) :
    ∃ p v q length,
      View.Moved problem.manifold (stages k).state.own.retraction id
        (Solver.views (solver problem cost) stages k)
        (Solver.views (solver problem cost) stages (k + 1)) p v q length ∧
      Solver.sizes stages (k + 1) = some length ∧
      ∃ s t, computeDirection problem (k + 1) s = .ok v t ∧
        s.state.own = { (stages k).state.own with isSame := true } := by
  obtain ⟨v, length, advance, noted⟩ := course_advance course inside
  exact ⟨_, v, _, length, ⟨rfl, congrArg (Except.ok ∘ some) advance.shown, advance.moved, rfl⟩,
    noted, advance.solved⟩

end Newton

namespace Solver

variable {α : Type} [Scalar α]

/-- The records of a run and its stopping criteria report what happened. A column has one entry for
each iteration, which is what its field reports of it. A criterion that measures changes ends with
the last change recorded. Both methods go along the direction recorded by the length recorded, and
the norms that the subgradient method compares are those recorded. -/
theorem reports_agree (recorder : Option (Recorder α)) :
    (∀ {S : Type} {solver : Solver α S} {first stages fields n allowance completed result},
      solver.Lawful → solver.LeavesDriver →
      RecordedRun solver recorder first fields n stages allowance completed result →
        solver.solve allowance recorder first = result ∧
        (∀ f ∈ fields, ∃ entries, (left result).state.column? f = some entries ∧
          (completed = n → entries.length = n) ∧
          ∀ k < n, ∃ entry, entries[k]? = some entry ∧
            Reported (views solver stages) (sizes stages) (k + 1) f entry) ∧
        ∀ answer t i, 0 < n → n < allowance → solver.shouldStop n (stages n) = .ok answer t →
          (∀ j ∈ first.state.stop.root.changeCells, j < first.state.stop.memory.length) →
          first.state.stop.root.changeCells.count i = 1 → .change ∈ fields →
            ∃ x, ((left result).state.column? .change).bind (·[n - 1]?) = some (.number x) ∧
              ((left result).state.stop.memory.cell i).lastChange = some x) ∧
    (∀ {problem : Problem α} {first stages fields n allowance completed result},
      RecordedRun (Subgradient.solverFor problem) recorder first fields n stages allowance completed
        result →
      ∀ k < n, ∃ p v q length,
        View.Moved problem.asCost.manifold (stages k).state.own.retraction Neg.neg
          (views (Subgradient.solverFor problem) stages k)
          (views (Subgradient.solverFor problem) stages (k + 1)) p v q length ∧
        sizes stages (k + 1) = some length ∧
        (∃ s t, problem.asCost.subgradientInto (stages k).state.own.direction p s = .ok v t) ∧
        ∀ c tolerance s t answer,
          Criterion.check (views (Subgradient.solverFor problem) stages (k + 1)) (k + 1 : Nat)
            (.subgradientNormLess c tolerance) s = .ok answer t → .directionNorm ∈ fields →
          ∃ x, ((left result).state.column? .directionNorm).bind (·[k]?) = some (.number x) ∧
            answer = (Number.real x).lt tolerance) ∧
    (∀ {problem : RootProblem α} {cost first stages fields n allowance completed result},
      RecordedRun (Newton.solver problem cost) recorder first fields n stages allowance completed
        result →
      ∀ k < n, ∃ p v q length,
        View.Moved problem.manifold (stages k).state.own.retraction id
          (views (Newton.solver problem cost) stages k)
          (views (Newton.solver problem cost) stages (k + 1)) p v q length ∧
        sizes stages (k + 1) = some length ∧
        ∃ s t, Newton.computeDirection problem (k + 1) s = .ok v t ∧
          s.state.own = { (stages k).state.own with isSame := true }) := by
  refine ⟨?_, ?_, fun run k inside => Newton.course_moved run.course inside⟩
  · intro S solver first stages fields n allowance completed result lawful leaves run
    obtain ⟨begun, ending⟩ := run.ending
    refine ⟨ending.solve_eq run.course, fun f member => run.columns leaves member, ?_⟩
    intro answer t i later unspent asked room once member
    obtain ⟨x, measured, remembered⟩ :=
      run.course.lastChange lawful rfl room (by omega) once asked
    refine ⟨x, run.entry_eq leaves member (by omega) fun entry reported => ?_, ?_⟩
    · rw [show n - 1 + 1 = n by omega] at reported
      exact reported.change_eq measured
    · rw [ending.stop_eq leaves unspent asked]
      exact remembered
  · intro problem first stages fields n allowance completed result run k inside
    obtain ⟨p, v, q, length, moved, size, taken, evaluated⟩ :=
      Subgradient.course_moved run.course inside
    refine ⟨p, v, q, length, moved, size, evaluated, ?_⟩
    intro c tolerance s t answer asked member
    obtain ⟨reason, -, -, compared⟩ := Criterion.checkSubgradient_eq_ok asked
    obtain ⟨M, p', v', x, known, taken', measured, answered, -⟩ := compared (Nat.succ_ne_zero k)
    -- The criterion sees the point and the subgradient of the step that is recorded.
    cases taken.symm.trans taken'
    have leaves := Subgradient.solverFor_leavesDriver problem
    refine ⟨x, run.entry_eq leaves member inside fun entry reported => ?_, answered⟩
    exact reported.directionNorm_eq known moved.start moved.direction measured

end Solver

namespace Subgradient

open Solver

def changeOrTwo : StoppingRule Float :=
  ⟨.any 2 [.changeLess 0 (.real 0.125), .afterIteration 1 (.int 2)], List.replicate 3 {}⟩

def everyField : List Field := [.iteration, .iterate, .change, .cost, .stepsize, .directionNorm]

theorem reports_agree_everyField :
    ∃ n stages last, RecordedRun (solverFor (.cost parabola)) (some (.ofFields everyField))
        (fromPoint 2 0.25 changeOrTwo) everyField n stages 5 n (.ok () last) ∧
      last.state.iteration = 2 ∧
      (∀ f ∈ everyField, ∃ entries, last.state.column? f = some entries ∧ entries.length = n) ∧
      ∃ x, (last.state.column? .change).bind (·[n - 1]?) = some (.number x) ∧
        (last.state.stop.memory.cell 0).lastChange = some x := by
  have counted : (match (solverFor (.cost parabola)).solve 5 (some (.ofFields everyField))
      (fromPoint 2 0.25 changeOrTwo) with
    | .ok _ last => some last.state.iteration
    | .error _ _ => none) = some 2 := by decide +kernel
  cases ended : (solverFor (.cost parabola)).solve 5 (some (.ofFields everyField))
      (fromPoint 2 0.25 changeOrTwo) with
  | error e last =>
    rw [ended] at counted
    cases counted
  | ok _ last =>
    rw [ended] at counted
    have lawful := solverFor_lawful (.cost parabola)
    have leaves := solverFor_leavesDriver (.cost parabola)
    have attached : ((fromPoint 2 0.25 changeOrTwo).state.attach
        (some (.ofFields everyField))).recorder = some (.ofFields everyField) := rfl
    obtain ⟨n, stages, t, run, unspent, fired⟩ :=
      RecordedRun.of_ended attached (by decide) ended
    obtain ⟨-, columns, changes⟩ :=
      (reports_agree (some (.ofFields everyField))).1 lawful leaves run
    obtain ⟨begun, ending⟩ := run.ending
    have iteration : last.state.iteration = n :=
      ending.iteration_eq leaves (run.course.iteration_eq (Nat.le_refl n))
    have two := iteration.symm.trans (Option.some.inj counted)
    refine ⟨n, stages, last, run, Option.some.inj counted, fun f member => ?_, ?_⟩
    · obtain ⟨entries, column, length, -⟩ := columns f member
      exact ⟨entries, column, length rfl⟩
    · exact changes true t 0 (by omega) unspent fired (by decide) (by decide) (by decide)

end Subgradient

end ManifoldOpt
