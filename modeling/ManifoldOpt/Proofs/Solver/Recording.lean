import ManifoldOpt.Proofs.Solver.Recorder
import ManifoldOpt.Proofs.Stopping.Composition

set_option autoImplicit false

namespace ManifoldOpt

open Attempt

def Run.column? {α S : Type} (r : Run α S) (f : Field) : Option (List (Entry α)) :=
  r.recorder.bind (·.column? f)

def Run.columnLength {α S : Type} (r : Run α S) (f : Field) : Option Nat :=
  (r.column? f).map List.length

theorem Run.column?_eq {α S : Type} {r : Run α S} {kept : Recorder α}
    (recorder : r.recorder = some kept) (f : Field) : r.column? f = kept.column? f := by
  rw [column?, recorder, Option.bind_some]

namespace Solver

variable {α S : Type} [Scalar α] {solver : Solver α S} {recorder : Option (Recorder α)}
  {first : Stage α (Run α S)} {n : Nat} {stages : Nat → Stage α (Run α S)} {r : Recorder α}

def sizes (stages : Nat → Stage α (Run α S)) (k : Nat) : Option α := (stages k).state.lastStepsize

theorem step_recorder (leaves : solver.LeavesDriver) {k : Int} {s t u : Stage α (Run α S)}
    (asked : solver.shouldStop k s = .ok false t) (stepped : solver.step (k + 1) t = .ok () u) :
    u.state.recorder = s.state.recorder := by
  obtain ⟨memory, left⟩ := shouldStop_state asked
  rw [((leaves.step _).of_ok stepped).recorder, left]

section LeavesDriver

variable (leaves : solver.LeavesDriver) (attached : (first.state.attach recorder).recorder = some r)

include leaves attached

theorem setUp_recorder {s : Stage α (Run α S)}
    (set : solver.setUp ⟨first.trail, first.state.attach recorder⟩ = .ok () s) :
    s.state.recorder = some r :=
  (leaves.setUp.of_ok set).recorder.trans attached

theorem prepare_eq_ok {s : Stage α (Run α S)} (prepared : solver.prepare recorder first = .ok () s) :
    ∃ p, (solver.view s.state.own).point = .ok p ∧
      s.state.recorder = some ⟨r.fields, Recorder.emptyColumns r.fields, some p⟩ := by
  rw [prepare_eq] at prepared
  obtain ⟨_, u, set, rest⟩ := bind_eq_ok.mp prepared
  obtain ⟨_, _, counted, started⟩ := bind_eq_ok.mp rest
  cases counted
  have kept := setUp_recorder leaves attached set
  obtain ⟨v, begun, rfl⟩ := (withRecorder_eq_ok (s := u.counted 0) kept).mp started
  obtain ⟨p, shown, left⟩ := Recorder.start_eq_ok begun
  exact ⟨p, shown, congrArg some left⟩

theorem Course.recorded (course : Course solver recorder first n stages) {k : Nat} (inside : k ≤ n) :
    ∃ r', (stages k).state.recorder = some r' ∧
      Recorded r.fields (views solver stages) (sizes stages) k r' := by
  induction k with
  | zero =>
    obtain ⟨p, shown, kept⟩ := prepare_eq_ok leaves attached course.prepared
    exact ⟨_, kept, .start shown⟩
  | succ k ih =>
    obtain ⟨r', kept, recorded⟩ := ih (by omega)
    obtain ⟨t, asked, iterated⟩ := course.continued k inside
    obtain ⟨u, v, stepped, noted, left⟩ := iterate_eq_ok iterated
    have reached : (stages (k + 1)).state = v.state := by rw [left]; rfl
    have kept' := (step_recorder leaves asked stepped).trans kept
    obtain ⟨w, done, rfl⟩ := (withRecorder_eq_ok (s := u.counted (k + 1)) kept').mp noted
    obtain ⟨row, p, complete, shown, grown⟩ := Recorder.record_eq_ok done
    -- The row is taken from the state that the step has led to, which recording leaves alone.
    have seen : views solver stages (k + 1) = solver.view u.state.own := by
      rw [views, reached]
      rfl
    have size : sizes stages (k + 1) = u.state.lastStepsize := by
      rw [sizes, reached]
      rfl
    refine ⟨_, by rw [reached], ?_⟩
    rw [grown]
    refine recorded.next ?_ (by rw [seen]; exact shown)
    rw [seen, size]
    exact complete

/-- What is left of the recorder at the end of a run is what the iterations recorded as a whole have
left, and the beginning of one more row if recording failed. -/
theorem Ending.recorder_left (course : Course solver recorder first n stages)
    {allowance begun completed recorded : Nat}
    {result : EStateM.Result (Fault α) (Stage α (Run α S)) Unit}
    (ending : Ending solver allowance n (stages n) begun completed recorded result) :
    ∃ kept row last, Recorded r.fields (views solver stages) (sizes stages) n kept ∧
      (left result).state.recorder = some (kept.grow row) ∧
      last <+: r.fields ∧ (completed = recorded → last = []) ∧
      ∀ f, (row.filter (·.1 = f)).length = last.count f := by
  obtain ⟨kept, reached, held⟩ := course.recorded leaves attached (Nat.le_refl n)
  refine ⟨kept, ?_⟩
  by_cases complete : completed = recorded
  · refine ⟨[], [], held, ?_, List.nil_prefix, fun _ => rfl, fun _ => rfl⟩
    exact (ending.recorder_eq leaves complete).trans reached
  · cases ending with
    | exhausted spent => exact absurd rfl complete
    | stopped unspent fired => exact absurd rfl complete
    | unanswered unspent failed => exact absurd rfl complete
    | interrupted unspent going failed => exact absurd rfl complete
    | @unrecorded _ u _ _ unspent going stepped failed =>
      have kept' := (step_recorder leaves going stepped).trans reached
      obtain ⟨w, torn, rfl⟩ := (withRecorder_eq_error (s := u.counted (n + 1)) kept').mp failed
      obtain ⟨last, row, before, measured, grown⟩ := Recorder.record_eq_error torn
      have fields : kept.fields = r.fields := held.same_fields
      refine ⟨row, last, held, congrArg some grown, fields ▸ before, fun same => ?_,
        fun f => measured.length_filter f⟩
      exact absurd same complete

theorem Ending.columns_left (course : Course solver recorder first n stages)
    {allowance begun completed recorded : Nat}
    {result : EStateM.Result (Fault α) (Stage α (Run α S)) Unit}
    (ending : Ending solver allowance n (stages n) begun completed recorded result) :
    ∃ last, last <+: r.fields ∧ (completed = recorded → last = []) ∧
      ∀ f ∈ r.fields, ∃ entries added,
        (left result).state.column? f = some (entries ++ added) ∧
        entries.length = n * r.fields.count f ∧ added.length = last.count f ∧
        (r.fields.count f = 1 → ∀ j < n, ∃ entry, entries[j]? = some entry ∧
          Reported (views solver stages) (sizes stages) (j + 1) f entry) := by
  obtain ⟨kept, row, last, held, grown, before, whole, added⟩ :=
    ending.recorder_left leaves attached course
  refine ⟨last, before, whole, fun f member => ?_⟩
  obtain ⟨entries, column, length, once⟩ := held.columns f member
  refine ⟨entries, (row.filter (·.1 = f)).map Prod.snd, ?_, length, ?_, once⟩
  · rw [Run.column?_eq grown, Recorder.column?_grow, column]
    rfl
  · rw [List.length_map, added]

/-- The columns of a run that has ended hold an entry for each recorded iteration and occurrence of
the field; if recording failed, the fields before the one that failed have their entries of the last
iteration as well. -/
theorem recorded_columns {s : Stage α (Run α S)}
    (set : solver.setUp ⟨first.trail, first.state.attach recorder⟩ = .ok () s) (allowance : Nat) :
    ∃ begun completed recorded last,
      Ends solver allowance recorder first begun completed recorded
        (solver.solve allowance recorder first) ∧
      last <+: r.fields ∧ (completed = recorded → last = []) ∧
      ∀ f ∈ r.fields,
        (left (solver.solve allowance recorder first)).state.columnLength f =
            some (recorded * r.fields.count f + last.count f) ∧
        (r.fields.Nodup → completed = recorded →
          (left (solver.solve allowance recorder first)).state.columnLength f = some recorded) := by
  obtain ⟨begun, completed, recorded, ends⟩ := solve_ends solver recorder first allowance
  generalize solver.solve allowance recorder first = result at ends ⊢
  have columns : ∃ last, last <+: r.fields ∧ (completed = recorded → last = []) ∧
      ∀ f ∈ r.fields, (left result).state.columnLength f =
        some (recorded * r.fields.count f + last.count f) := by
    cases ends with
    | unprepared failed =>
      have kept := setUp_recorder leaves attached set
      rw [prepare_of_setUp set] at failed
      obtain ⟨u, unstarted, rfl⟩ := (withRecorder_eq_error (s := s.counted 0) kept).mp failed
      refine ⟨[], List.nil_prefix, fun _ => rfl, fun f member => ?_⟩
      have column : u.state.column? f = some [] := by
        rw [Recorder.start_eq_error unstarted, Recorder.column?, Recorder.lookup_emptyColumns,
          if_pos member]
      rw [Run.columnLength, Run.column?_eq rfl f, column, Nat.zero_mul]
      rfl
    | @after n _ _ _ stages _ course ending =>
      obtain ⟨last, before, whole, columns⟩ := ending.columns_left leaves attached course
      refine ⟨last, before, whole, fun f member => ?_⟩
      obtain ⟨entries, added, column, length, length', -⟩ := columns f member
      rw [Run.columnLength, column, Option.map_some, List.length_append, length, length',
        ending.recorded_eq]
  obtain ⟨last, before, whole, lengths⟩ := columns
  refine ⟨begun, completed, recorded, last, ends, before, whole, fun f member =>
    ⟨lengths f member, fun distinct complete => ?_⟩⟩
  rw [lengths f member, whole complete, List.count_nil, Nat.add_zero,
    List.count_eq_one_of_mem distinct member, Nat.mul_one]

end LeavesDriver

end Solver

namespace Subgradient

open Solver

def recordTwo (problem : CostProblem Float) (fields : List Field) :
    EStateM.Result (Fault Float) (Stage Float (Run Float (SubgradientState Float))) Unit :=
  (solver problem).solve 5 (some (.ofFields fields)) (fromPoint 2 0.25 (.after 2))

theorem recorded_columns_repeated :
    ∃ begun completed recorded last,
      Ends (solver parabola) 5 (some (.ofFields [.cost, .cost])) (fromPoint 2 0.25 (.after 2))
        begun completed recorded (recordTwo parabola [.cost, .cost]) ∧
      last <+: [Field.cost, .cost] ∧ (completed = recorded → last = []) ∧
      (left (recordTwo parabola [.cost, .cost])).state.columnLength .cost =
        some (recorded * 2 + last.count .cost) := by
  have attached : ((fromPoint 2 0.25 (.after 2)).state.attach
      (some (.ofFields [.cost, .cost]))).recorder = some (.ofFields [.cost, .cost]) := rfl
  obtain ⟨s, set⟩ : ∃ s, (solver parabola).setUp ⟨{}, (fromPoint 2 0.25 (.after 2)).state.attach
      (some (.ofFields [.cost, .cost]))⟩ = .ok () s := ⟨_, rfl⟩
  obtain ⟨begun, completed, recorded, last, ends, before, whole, lengths⟩ :=
    recorded_columns (solver_leavesDriver parabola) attached set 5
  exact ⟨begun, completed, recorded, last, ends, before, whole, (lengths .cost (by decide)).1⟩

def guardedParabola : CostProblem Float where
  manifold := euclidean [1]
  cost p := do
    if 2 < (← Trail.count 0) then throw (.callback "no cost")
    else parabola.cost p
  subgradient := parabola.subgradient

/-- A field that is named twice has two entries for each iteration. The iteration in which the cost
fails is recorded for the field before it. -/
theorem columns_uneven :
    (left (recordTwo parabola [.cost, .cost])).state.iteration = 2 ∧
      (left (recordTwo parabola [.cost, .cost])).state.columnLength .cost = some 4 ∧
      (left (recordTwo guardedParabola [.iteration, .cost])).state.columnLength .iteration =
        some 1 ∧
      (left (recordTwo guardedParabola [.iteration, .cost])).state.columnLength .cost = some 0 := by
  decide +kernel

end Subgradient

end ManifoldOpt
