import ManifoldOpt.Proofs.Solver.Events

/-!
Runs that agree. If two solvers set up and step alike and show the same of their states, their runs
agree as a whole: stage by stage, in what is recorded, in why they stop, and in how they fail. What
of the trails has to be the same for this depends on the functions of the caller: nothing but what
has been counted if they take no notice of the events, the whole trails if nothing is known of them.
-/

set_option autoImplicit false

namespace ManifoldOpt

open Attempt

variable {α S T : Type} {Q : S → T → Prop} {H : Trail α → Trail α → Prop}

structure Run.Alike (Q : S → T → Prop) (r : Run α S) (r' : Run α T) : Prop where
  stop : r.stop = r'.stop
  own : Q r.own r'.own
  iteration : r.iteration = r'.iteration
  recorder : r.recorder = r'.recorder
  lastStepsize : r.lastStepsize = r'.lastStepsize

namespace Stage

abbrev JoinedRuns (H : Trail α → Trail α → Prop) (Q : S → T → Prop) (s : Stage α (Run α S))
    (t : Stage α (Run α T)) : Prop :=
  Joined H (Run.Alike Q) s t

abbrev AlikeRuns (Q : S → T → Prop) (s : Stage α (Run α S)) (t : Stage α (Run α T)) : Prop :=
  Alike (Run.Alike Q) s t

abbrev SameTrailRuns (Q : S → T → Prop) (s : Stage α (Run α S)) (t : Stage α (Run α T)) : Prop :=
  JoinedRuns Eq Q s t

abbrev alikeParts (H : Trail α → Trail α → Prop) (Q : S → T → Prop) : RunRelations α S T where
  trail := H
  memory := Eq
  recorder := Eq
  own := Q

theorem related_alikeParts : Run.Related (alikeParts H Q) = Run.Alike Q := by
  ext r r'
  constructor
  · rintro ⟨root, memory, own, iteration, recorder, lastStepsize⟩
    obtain ⟨⟨_, _⟩, _, _, _, _⟩ := r
    obtain ⟨⟨_, _⟩, _, _, _, _⟩ := r'
    cases root
    cases memory
    exact ⟨rfl, own, iteration, Option.rel_eq ▸ recorder, lastStepsize⟩
  · rintro ⟨stop, own, iteration, recorder, lastStepsize⟩
    exact ⟨by rw [stop], by rw [stop], own, iteration, Option.rel_eq ▸ recorder, lastStepsize⟩

theorem joinedRuns_eq : JoinedRuns H Q = (alikeParts H Q).Stages :=
  congrArg (Joined H) related_alikeParts.symm

variable (α Q) in
theorem alikeRuns_eq : AlikeRuns (α := α) Q = JoinedRuns Trail.SameTally Q := alike_eq _

end Stage

namespace Running

theorem getOwn_joined :
    Couples (Stage.JoinedRuns H Q) Q (getOwn : Running α S S) (getOwn : Running α T T) := by
  rw [Stage.joinedRuns_eq]
  exact getOwn_related

theorem modifyOwn_joined {f : S → S} {g : T → T} (keeps : ∀ x y, Q x y → Q (f x) (g y)) :
    Couples (Stage.JoinedRuns H Q) Eq (modifyOwn f : Running α S Unit)
      (modifyOwn g : Running α T Unit) := by
  rw [Stage.joinedRuns_eq]
  exact modifyOwn_related keeps

theorem setStepsize_joined (length : Option α) :
    Couples (Stage.JoinedRuns H Q) Eq (setStepsize length : Running α S Unit)
      (setStepsize length : Running α T Unit) := by
  rw [Stage.joinedRuns_eq]
  exact setStepsize_related length

theorem getOwn_couples :
    Couples (Stage.AlikeRuns Q) Q (getOwn : Running α S S) (getOwn : Running α T T) := by
  rw [Stage.alikeRuns_eq]
  exact getOwn_joined

theorem modifyOwn_couples {f : S → S} {g : T → T} (keeps : ∀ x y, Q x y → Q (f x) (g y)) :
    Couples (Stage.AlikeRuns Q) Eq (modifyOwn f : Running α S Unit)
      (modifyOwn g : Running α T Unit) := by
  rw [Stage.alikeRuns_eq]
  exact modifyOwn_joined keeps

theorem setStepsize_couples (length : Option α) :
    Couples (Stage.AlikeRuns Q) Eq (setStepsize length : Running α S Unit)
      (setStepsize length : Running α T Unit) := by
  rw [Stage.alikeRuns_eq]
  exact setStepsize_joined length

end Running

variable [Scalar α]

/-- From equal states on related trails stopping rules and recorders go on in one way. -/
structure View.SameAnswers (H : Trail α → Trail α → Prop) (view : View α) : Prop where
  emits : ∀ event, Couples H Eq (Trail.emit event) (Trail.emit event)
  checks : ∀ k (c : Criterion α), Couples (Stage.Joined H Eq) Eq (c.check view k) (c.check view k)
  starts : Couples (Stage.Joined H Eq) Eq (Recorder.start view) (Recorder.start view)
  records : ∀ size k, Couples (Stage.Joined H Eq) Eq (Recorder.record view size k)
    (Recorder.record view size k)

theorem View.IgnoresEvents.sameAnswers {view : View α} (ignores : view.IgnoresEvents) :
    view.SameAnswers Trail.SameTally where
  emits _ _ _ tally := .ok rfl tally
  checks k c := Stage.alike_eq _ ▸ Criterion.check_upToEvents k c
  starts := Stage.alike_eq _ ▸ Recorder.start_upToEvents
  records size k := Stage.alike_eq _ ▸ Recorder.record_upToEvents ignores size k

theorem View.sameAnswers (view : View α) : view.SameAnswers Eq where
  emits _ := couples_same _
  checks _ _ := Stage.joined_eq ▸ couples_same _
  starts := Stage.joined_eq ▸ couples_same _
  records _ _ := Stage.joined_eq ▸ couples_same _

namespace Solver

/-- Solvers of one name that show the same of related states, and set up and step alike on related
trails. -/
structure Joined (H : Trail α → Trail α → Prop) (Q : S → T → Prop) (solver : Solver α S)
    (solver' : Solver α T) : Prop where
  name : solver.name = solver'.name
  level : solver.level = solver'.level
  view : ∀ x y, Q x y → solver.view x = solver'.view y
  sameAnswers : ∀ x, (solver.view x).SameAnswers H
  setUp : Couples (Stage.JoinedRuns H Q) Eq solver.setUp solver'.setUp
  step : ∀ k, Couples (Stage.JoinedRuns H Q) Eq (solver.step k) (solver'.step k)

variable {solver : Solver α S} {solver' : Solver α T}

section Joined

variable (joined : Joined H Q solver solver')

include joined

theorem Joined.related : Related (Stage.alikeParts H Q) solver solver' where
  name := joined.name
  level := joined.level
  reasons := by
    rintro m _ rfl i
    rfl
  emits x _ _ := (joined.sameAnswers x).emits
  checks x y own k c := joined.view x y own ▸ (joined.sameAnswers x).checks k c
  starts x y own := joined.view x y own ▸ (joined.sameAnswers x).starts
  records x y own size k := joined.view x y own ▸ (joined.sameAnswers x).records size k
  setUp := Stage.joinedRuns_eq ▸ joined.setUp
  step k := Stage.joinedRuns_eq ▸ joined.step k

theorem Joined.shouldStop (k : Int) :
    Couples (Stage.JoinedRuns H Q) Eq (solver.shouldStop k) (solver'.shouldStop k) := by
  rw [Stage.joinedRuns_eq]
  exact joined.related.shouldStop k

theorem Joined.iterate (k : Int) :
    Couples (Stage.JoinedRuns H Q) Eq (solver.iterate k) (solver'.iterate k) := by
  rw [Stage.joinedRuns_eq]
  exact joined.related.iterate k

theorem Joined.finish (k : Int) :
    Couples (Stage.JoinedRuns H Q) Eq (solver.finish k) (solver'.finish k) := by
  rw [Stage.joinedRuns_eq]
  exact joined.related.finish k

theorem Joined.loop (allowance k : Nat) :
    Couples (Stage.JoinedRuns H Q) Eq (solver.loop allowance k) (solver'.loop allowance k) := by
  rw [Stage.joinedRuns_eq]
  exact joined.related.loop allowance k

theorem Joined.prepare (recorder : Option (Recorder α)) :
    Couples (Stage.JoinedRuns H Q) Eq (solver.prepare recorder) (solver'.prepare recorder) := by
  rw [Stage.joinedRuns_eq]
  exact joined.related.prepare (Option.rel_eq ▸ rfl)

theorem Joined.solve (allowance : Nat) (recorder : Option (Recorder α)) :
    Couples (Stage.JoinedRuns H Q) Eq (solver.solve allowance recorder)
      (solver'.solve allowance recorder) := by
  rw [Stage.joinedRuns_eq]
  exact joined.related.solve (Option.rel_eq ▸ rfl) allowance

theorem Joined.course {recorder : Option (Recorder α)} {first : Stage α (Run α S)}
    {first' : Stage α (Run α T)} {n : Nat} {stages : Nat → Stage α (Run α S)}
    (start : Stage.JoinedRuns H Q first first') (course : Course solver recorder first n stages) :
    ∃ stages', Course solver' recorder first' n stages' ∧
      ∀ k ≤ n, Stage.JoinedRuns H Q (stages k) (stages' k) := by
  rw [Stage.joinedRuns_eq] at start ⊢
  exact joined.related.course (Option.rel_eq ▸ rfl) start course

end Joined

structure Alike (Q : S → T → Prop) (solver : Solver α S) (solver' : Solver α T) : Prop where
  name : solver.name = solver'.name
  level : solver.level = solver'.level
  view : ∀ x y, Q x y → solver.view x = solver'.view y
  ignores : ∀ x, (solver.view x).IgnoresEvents
  setUp : Couples (Stage.AlikeRuns Q) Eq solver.setUp solver'.setUp
  step : ∀ k, Couples (Stage.AlikeRuns Q) Eq (solver.step k) (solver'.step k)

section Alike

variable (alike : Alike Q solver solver')

include alike

theorem Alike.joined : Joined Trail.SameTally Q solver solver' where
  name := alike.name
  level := alike.level
  view := alike.view
  sameAnswers x := (alike.ignores x).sameAnswers
  setUp := Stage.alikeRuns_eq α Q ▸ alike.setUp
  step k := Stage.alikeRuns_eq α Q ▸ alike.step k

theorem Alike.shouldStop (k : Int) :
    Couples (Stage.AlikeRuns Q) Eq (solver.shouldStop k) (solver'.shouldStop k) :=
  Stage.alikeRuns_eq α Q ▸ alike.joined.shouldStop k

theorem Alike.iterate (k : Int) :
    Couples (Stage.AlikeRuns Q) Eq (solver.iterate k) (solver'.iterate k) :=
  Stage.alikeRuns_eq α Q ▸ alike.joined.iterate k

theorem Alike.finish (k : Int) :
    Couples (Stage.AlikeRuns Q) Eq (solver.finish k) (solver'.finish k) :=
  Stage.alikeRuns_eq α Q ▸ alike.joined.finish k

theorem Alike.loop (allowance k : Nat) :
    Couples (Stage.AlikeRuns Q) Eq (solver.loop allowance k) (solver'.loop allowance k) :=
  Stage.alikeRuns_eq α Q ▸ alike.joined.loop allowance k

theorem Alike.prepare (recorder : Option (Recorder α)) :
    Couples (Stage.AlikeRuns Q) Eq (solver.prepare recorder) (solver'.prepare recorder) :=
  Stage.alikeRuns_eq α Q ▸ alike.joined.prepare recorder

theorem Alike.solve (allowance : Nat) (recorder : Option (Recorder α)) :
    Couples (Stage.AlikeRuns Q) Eq (solver.solve allowance recorder)
      (solver'.solve allowance recorder) :=
  Stage.alikeRuns_eq α Q ▸ alike.joined.solve allowance recorder

theorem Alike.course {recorder : Option (Recorder α)} {first : Stage α (Run α S)}
    {first' : Stage α (Run α T)} {n : Nat} {stages : Nat → Stage α (Run α S)}
    (start : Stage.AlikeRuns Q first first') (course : Course solver recorder first n stages) :
    ∃ stages', Course solver' recorder first' n stages' ∧
      ∀ k ≤ n, Stage.AlikeRuns Q (stages k) (stages' k) := by
  rw [Stage.alikeRuns_eq] at start ⊢
  exact alike.joined.course start course

end Alike

end Solver

end ManifoldOpt
