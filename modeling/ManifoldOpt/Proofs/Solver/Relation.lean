import ManifoldOpt.Proofs.Solver.Course
import ManifoldOpt.Proofs.Stopping.Coupling
import ManifoldOpt.Solver.Run

/-!
Runs that correspond. What two runs remember for their stopping rules, what they record and the
states of their solvers need not be the same for the runs to go on and to stop together: it is enough
that they are related, and that asking the rules, recording, setting up and stepping keep them so.
-/

set_option autoImplicit false

namespace ManifoldOpt

open Attempt

section Records

variable {α : Type} {P : Tensor α → Tensor α → Prop}

inductive Entry.Related (P : Tensor α → Tensor α → Prop) : Entry α → Entry α → Prop
  | count (n : Int) : Related P (.count n) (.count n)
  | number (x : α) : Related P (.number x) (.number x)
  | point {p q : Tensor α} (related : P p q) : Related P (.point p) (.point q)
  | nothing : Related P .nothing .nothing

theorem Entry.related_eq : Entry.Related (α := α) Eq = Eq := by
  ext e e'
  constructor
  · rintro (_ | _ | ⟨rfl⟩ | _) <;> rfl
  · rintro rfl
    cases e with
    | count n => exact .count n
    | number x => exact .number x
    | point p => exact .point rfl
    | nothing => exact .nothing

namespace Recorder

def ColumnRelated (P : Tensor α → Tensor α → Prop) (c d : Field × List (Entry α)) : Prop :=
  c.1 = d.1 ∧ List.Forall₂ (Entry.Related P) c.2 d.2

theorem columnRelated_eq : ColumnRelated (α := α) Eq = Eq := by
  ext c d
  rw [ColumnRelated, Entry.related_eq, List.forall₂_eq_eq_eq, Prod.ext_iff]

structure Related (P : Tensor α → Tensor α → Prop) (r r' : Recorder α) : Prop where
  fields : r.fields = r'.fields
  columns : List.Forall₂ (ColumnRelated P) r.columns r'.columns
  previous : Option.Rel P r.previous r'.previous

theorem related_eq : Related (α := α) Eq = Eq := by
  ext r r'
  constructor
  · rintro ⟨fields, columns, previous⟩
    rw [columnRelated_eq, List.forall₂_eq_eq_eq] at columns
    rw [Option.rel_eq] at previous
    cases r
    cases r'
    cases fields
    cases columns
    cases previous
    rfl
  · rintro rfl
    refine ⟨rfl, ?_, Option.rel_eq ▸ rfl⟩
    rw [columnRelated_eq, List.forall₂_eq_eq_eq]

theorem related_emptyColumns (fields : List Field) :
    List.Forall₂ (ColumnRelated P) (emptyColumns fields) (emptyColumns fields) := by
  refine List.forall₂_same.mpr fun c member => ⟨rfl, ?_⟩
  obtain ⟨f, -, rfl⟩ := List.mem_map.mp member
  exact .nil

theorem related_ofFields (fields : List Field) : Related P (ofFields fields) (ofFields fields) :=
  ⟨rfl, related_emptyColumns fields, .none⟩

theorem related_ofOption [Scalar α] {given : Literal α} {recorder : Option (Recorder α)}
    (made : ofOption given = .ok recorder) : Option.Rel (Related P) recorder recorder := by
  unfold ofOption at made
  split at made
  · cases made
    exact .none
  · obtain ⟨r, read, made⟩ := Outcome.bind_eq_ok.mp made
    cases made
    refine .some ?_
    -- Whatever is read from a literal has no entries yet.
    obtain ⟨wanted, -, read⟩ := Outcome.bind_eq_ok.mp read
    split at read
    · cases read
    · dsimp only at read
      split at read
      · cases read
        exact related_ofFields _
      · cases read

theorem Related.append {r r' : Recorder α} {e e' : Entry α} (related : Related P r r')
    (entries : Entry.Related P e e') (f : Field) : Related P (r.append f e) (r'.append f e') where
  fields := related.fields
  previous := related.previous
  columns := by
    refine List.forall₂_map_left_iff.mpr (List.forall₂_map_right_iff.mpr ?_)
    refine related.columns.imp fun c d ⟨same, column⟩ => ?_
    rw [← same]
    by_cases here : c.1 = f
    · rw [if_pos here, if_pos here]
      exact ⟨rfl, List.rel_append column (.cons entries .nil)⟩
    · rw [if_neg here, if_neg here]
      exact ⟨same, column⟩

variable [Scalar α] {H : Trail α → Trail α → Prop} {view view' : View α}
  (views : View.Related H P view view')

include views

theorem start_related :
    Couples (Stage.Joined H (Related P)) Eq (start view) (start view') := by
  refine (Stage.joined_modifyState fun r r' related => ?_).bind_eq fun _ => ?_
  · rw [← related.fields]
    exact ⟨rfl, related_emptyColumns _, related.previous⟩
  rw [← views.manifold]
  refine Couples.lift_bind fun _ _ => (couples_lift views.point).bind fun p q points => ?_
  exact Stage.joined_modifyState fun _ _ related => { related with previous := .some points }

theorem measure_related {before before' : Option (Tensor α)} (stepsize : Option α) (k : Int)
    (previous : Option.Rel P before before') (f : Field) :
    Couples H (Entry.Related P) (measure view stepsize k before f)
      (measure view' stepsize k before' f) := by
  cases f with
  | iteration => exact couples_pure (.count k)
  | iterate =>
    unfold measure
    rw [← views.manifold]
    refine Couples.lift_bind fun _ _ => (couples_lift views.point).bind fun p q points => ?_
    exact couples_pure (.point points)
  | change =>
    unfold measure
    rw [← views.manifold]
    refine Couples.lift_bind fun M known => (couples_lift views.iterate).bind fun p q points => ?_
    rw [← distBetween_related (views.isometric M known) previous points]
    exact Couples.lift_bind fun size _ => couples_pure (.number size)
  | cost =>
    -- Of all fields only this one calls a function of the caller.
    unfold measure
    have costs := views.cost
    revert costs
    generalize view.cost = cost, view'.cost = cost'
    rintro (agree | _)
    · refine (couples_lift views.iterate).bind fun p q points => ?_
      cases points with
      | none => exact couples_throw _
      | some points => exact (agree _ _ points).bind_eq fun c => couples_pure (.number c)
    · exact couples_throw _
  | stepsize =>
    cases stepsize with
    | none => exact couples_pure .nothing
    | some length => exact couples_pure (.number length)
  | directionNorm =>
    unfold measure
    rw [← views.manifold]
    refine Couples.lift_bind fun M known => (couples_lift views.direction).bind fun v w vectors => ?_
    rw [← normAt_related (views.isometric M known) previous vectors]
    exact Couples.lift_bind fun size _ => couples_pure (.number size)

theorem recordEach_related (stepsize : Option α) (k : Int) (fields : List Field) :
    Couples (Stage.Joined H (Related P)) Eq (recordEach view stepsize k fields)
      (recordEach view' stepsize k fields) := by
  induction fields with
  | nil => exact couples_pure rfl
  | cons f rest ih =>
    refine Stage.joined_getState.bind fun r r' related => ?_
    refine (Stage.joined_onTrail (measure_related views stepsize k related.previous f)).bind
      fun e e' entries => ?_
    exact (Stage.joined_modifyState fun _ _ related => related.append entries f).bind_eq fun _ => ih

theorem record_related (stepsize : Option α) (k : Int) :
    Couples (Stage.Joined H (Related P)) Eq (record view stepsize k) (record view' stepsize k) := by
  refine Stage.joined_getState.bind fun r r' related => ?_
  rw [← related.fields]
  refine (recordEach_related views stepsize k r.fields).bind_eq fun _ => ?_
  rw [← views.manifold]
  refine Couples.lift_bind fun _ _ => (couples_lift views.point).bind fun p q points => ?_
  exact Stage.joined_modifyState fun _ _ related => { related with previous := .some points }

end Recorder

end Records

structure RunRelations (α S T : Type) where
  trail : Trail α → Trail α → Prop
  memory : Memory α → Memory α → Prop
  recorder : Recorder α → Recorder α → Prop
  own : S → T → Prop

variable {α S T : Type} {L : RunRelations α S T}

structure Run.Related (L : RunRelations α S T) (r : Run α S) (r' : Run α T) : Prop where
  root : r.stop.root = r'.stop.root
  memory : L.memory r.stop.memory r'.stop.memory
  own : L.own r.own r'.own
  iteration : r.iteration = r'.iteration
  recorder : Option.Rel L.recorder r.recorder r'.recorder
  lastStepsize : r.lastStepsize = r'.lastStepsize

abbrev RunRelations.Stages (L : RunRelations α S T) (s : Stage α (Run α S))
    (t : Stage α (Run α T)) : Prop :=
  Stage.Joined L.trail (Run.Related L) s t

namespace Running

theorem getOwn_related :
    Couples L.Stages L.own (getOwn : Running α S S) (getOwn : Running α T T) :=
  Stage.joined_getState.bind fun _ _ runs => couples_pure runs.own

theorem modifyOwn_related {f : S → S} {g : T → T} (keeps : ∀ x y, L.own x y → L.own (f x) (g y)) :
    Couples L.Stages Eq (modifyOwn f : Running α S Unit) (modifyOwn g : Running α T Unit) :=
  Stage.joined_modifyState fun _ _ runs => { runs with own := keeps _ _ runs.own }

theorem setStepsize_related (length : Option α) :
    Couples L.Stages Eq (setStepsize length : Running α S Unit)
      (setStepsize length : Running α T Unit) :=
  Stage.joined_modifyState fun _ _ runs => { runs with lastStepsize := rfl }

theorem onTrail_related {β γ : Type} {V : β → γ → Prop} {m : Attempt α (Trail α) β}
    {m' : Attempt α (Trail α) γ} (couples : Couples L.trail V m m') :
    Couples L.Stages V (Stage.onTrail m : Running α S β) (Stage.onTrail m' : Running α T γ) :=
  Stage.joined_onTrail couples

end Running

variable [Scalar α]

namespace Solver

/-- Solvers of one name that keep two runs related: in setting up and stepping, in what stopping
rules and recorders make of what they show, and in what is reported. -/
structure Related (L : RunRelations α S T) (solver : Solver α S) (solver' : Solver α T) : Prop where
  name : solver.name = solver'.name
  level : solver.level = solver'.level
  reasons : ∀ m m', L.memory m m' → ∀ i, (m.cell i).reason = (m'.cell i).reason
  emits : ∀ x y, L.own x y → ∀ event,
    Couples L.trail Eq (Trail.emit event) (Trail.emit event)
  checks : ∀ x y, L.own x y → ∀ k (c : Criterion α), Couples (Stage.Joined L.trail L.memory) Eq
    (c.check (solver.view x) k) (c.check (solver'.view y) k)
  starts : ∀ x y, L.own x y → Couples (Stage.Joined L.trail L.recorder) Eq
    (Recorder.start (solver.view x)) (Recorder.start (solver'.view y))
  records : ∀ x y, L.own x y → ∀ size k, Couples (Stage.Joined L.trail L.recorder) Eq
    (Recorder.record (solver.view x) size k) (Recorder.record (solver'.view y) size k)
  setUp : Couples L.Stages Eq solver.setUp solver'.setUp
  step : ∀ k, Couples L.Stages Eq (solver.step k) (solver'.step k)

omit [Scalar α] in
theorem withRecorder_related {m m' : Attempt α (Stage α (Recorder α)) Unit}
    (couples : Couples (Stage.Joined L.trail L.recorder) Eq m m') :
    Couples L.Stages Eq (withRecorder m : Running α S Unit)
      (withRecorder m' : Running α T Unit) := by
  refine Stage.joined_getState.bind fun r r' runs => ?_
  have recorders := runs.recorder
  revert recorders
  generalize r.recorder = given, r'.recorder = given'
  rintro (fallback | _)
  · refine Stage.joined_within couples ?_ ?_
    · exact fun x y runs => Option.rel_getD runs.recorder fallback
    · exact fun recorder recorder' x y kept runs => { runs with recorder := .some kept }
  · exact couples_pure rfl

omit [Scalar α] in
theorem setIteration_related (k : Int) :
    Couples L.Stages Eq
      (Stage.modifyState fun r => { r with iteration := k } : Running α S Unit)
      (Stage.modifyState fun r => { r with iteration := k } : Running α T Unit) :=
  Stage.joined_modifyState fun _ _ runs => { runs with iteration := rfl }

variable {solver : Solver α S} {solver' : Solver α T} (related : Related L solver solver')

include related

theorem Related.shouldStop (k : Int) :
    Couples L.Stages Eq (solver.shouldStop k) (solver'.shouldStop k) := by
  refine Stage.joined_getState.bind fun r r' runs => ?_
  unfold StoppingRule.ask
  rw [← runs.root]
  refine Stage.joined_within (related.checks _ _ runs.own k r.stop.root) ?_ ?_
  · exact fun x y runs => runs.memory
  · exact fun memory memory' x y kept runs => { runs with memory := kept }

theorem Related.startRecorder :
    Couples L.Stages Eq solver.startRecorder solver'.startRecorder :=
  Stage.joined_getState.bind fun _ _ runs => withRecorder_related (related.starts _ _ runs.own)

theorem Related.recordIteration (k : Int) :
    Couples L.Stages Eq (solver.recordIteration k) (solver'.recordIteration k) := by
  refine Stage.joined_getState.bind fun r r' runs => ?_
  rw [← runs.lastStepsize]
  exact withRecorder_related (related.records _ _ runs.own _ k)

theorem Related.iterate (k : Int) :
    Couples L.Stages Eq (solver.iterate k) (solver'.iterate k) := by
  refine (related.step k).bind_eq fun _ => (setIteration_related k).bind_eq fun _ => ?_
  refine (related.recordIteration k).bind_eq fun _ => ?_
  refine Stage.joined_getState.bind fun r r' runs => ?_
  rw [← related.name, ← runs.lastStepsize]
  exact Running.onTrail_related (related.emits _ _ runs.own _)

theorem Related.finish (k : Int) :
    Couples L.Stages Eq (solver.finish k) (solver'.finish k) := by
  refine Stage.joined_getState.bind fun r r' runs => ?_
  have reason : r.stop.reason = r'.stop.reason := by
    rw [StoppingRule.reason, StoppingRule.reason, StoppingRule.cell, StoppingRule.cell, ← runs.root]
    exact related.reasons _ _ runs.memory _
  rw [← related.level, ← related.name, ← reason]
  refine Couples.lift_bind fun level _ => Couples.ite (fun _ => ?_) fun _ => couples_pure rfl
  exact Running.onTrail_related (related.emits _ _ runs.own _)

theorem Related.loop (allowance k : Nat) :
    Couples L.Stages Eq (solver.loop allowance k) (solver'.loop allowance k) := by
  -- The rules answer alike, so that both loops stop after the same iteration.
  induction allowance generalizing k with
  | zero => exact couples_throw _
  | succ allowance ih =>
    refine (related.shouldStop k).bind_eq fun stops =>
      Couples.ite (fun _ => related.finish k) fun _ => ?_
    exact (related.iterate (k + 1)).bind_eq fun _ => ih (k + 1)

variable {recorder recorder' : Option (Recorder α)}
  (recorders : Option.Rel L.recorder recorder recorder')

include recorders

theorem Related.prepare :
    Couples L.Stages Eq (solver.prepare recorder) (solver'.prepare recorder') := by
  -- Attaching a recorder changes nothing of what comes after it.
  have setting : Couples L.Stages Eq
      (do
        solver.setUp
        Stage.modifyState fun r => { r with iteration := 0 }
        solver.startRecorder : Running α S Unit)
      (do
        solver'.setUp
        Stage.modifyState fun r => { r with iteration := 0 }
        solver'.startRecorder : Running α T Unit) :=
    related.setUp.bind_eq fun _ => (setIteration_related 0).bind_eq fun _ => related.startRecorder
  cases recorders with
  | none => exact setting
  | some given =>
    refine Couples.bind_eq (Stage.joined_modifyState ?_) fun _ => setting
    exact fun _ _ runs => { runs with recorder := .some given }

theorem Related.solve (allowance : Nat) :
    Couples L.Stages Eq (solver.solve allowance recorder) (solver'.solve allowance recorder') :=
  (related.prepare recorders).bind_eq fun _ => related.loop allowance 0

theorem Related.course {first : Stage α (Run α S)} {first' : Stage α (Run α T)} {n : Nat}
    {stages : Nat → Stage α (Run α S)} (start : L.Stages first first')
    (course : Course solver recorder first n stages) :
    ∃ stages', Course solver' recorder' first' n stages' ∧
      ∀ k ≤ n, L.Stages (stages k) (stages' k) := by
  induction n with
  | zero =>
    obtain ⟨s, prepared, after⟩ := (related.prepare recorders).ok_left start course.prepared
    refine ⟨fun _ => s, ⟨prepared, fun k inside => absurd inside (Nat.not_lt_zero k)⟩, ?_⟩
    intro k inside
    obtain rfl := Nat.le_zero.mp inside
    exact after
  | succ n ih =>
    obtain ⟨stages', course', before⟩ := ih (course.shorten (Nat.le_succ n))
    -- The last stages are related, so that the other run goes on by the same iteration.
    obtain ⟨t, asked, iterated⟩ := course.continued n (Nat.lt_succ_self n)
    obtain ⟨t', asked', between⟩ := (related.shouldStop n).ok_left (before n (Nat.le_refl n)) asked
    obtain ⟨u, iterated', after⟩ := (related.iterate (n + 1)).ok_left between iterated
    refine ⟨_, course'.extend asked' iterated', fun k inside => ?_⟩
    by_cases last : k = n + 1
    · subst last
      rw [Function.update_self]
      exact after
    · rw [Function.update_of_ne last]
      exact before k (by omega)

end Solver

end ManifoldOpt
