import ManifoldOpt.Proofs.Parting
import ManifoldOpt.Proofs.Solver.Guarded
import ManifoldOpt.Proofs.Solver.Interruption

/-!
Runs that agree until they part in a step. The two solvers show the same and step alike, unless a step
of the first one breaks off. Either that never happens and the runs agree as a whole, or both go
through like stages up to the step that breaks off.
-/

set_option autoImplicit false

namespace ManifoldOpt

open Attempt

variable {α S T : Type}

theorem Run.alike_eq : Run.Alike (α := α) (Eq : S → S → Prop) = Eq := by
  ext r r'
  constructor
  · rintro ⟨stop, own, iteration, recorder, lastStepsize⟩
    cases r
    cases r'
    cases stop
    cases own
    cases iteration
    cases recorder
    cases lastStepsize
    rfl
  · rintro rfl
    exact ⟨rfl, rfl, rfl, rfl, rfl⟩

theorem Stage.joinedRuns_eq_joined {H : Trail α → Trail α → Prop} :
    Stage.JoinedRuns H (Eq : S → S → Prop) = Stage.Joined H Eq :=
  congrArg (Stage.Joined H) Run.alike_eq

variable [Scalar α]

section Trails

variable {I : Trail α → Prop} (emits : ∀ event, Keeps I (Trail.emit event))

include emits

theorem View.sameAnswers_both {view : View α}
    (costs : ∀ cost ∈ view.cost, ∀ p, Keeps I (cost p)) : view.SameAnswers (Trail.Both I) := by
  have even (event : Event α) :
      Couples (Trail.Both I) Eq (Trail.emit event) (Trail.emit event) :=
    keeps_iff_couples.mp (emits event)
  have shown : View.Related (Trail.Both I) Eq view view :=
    View.related_self fun cost given p => keeps_iff_couples.mp (costs cost given p)
  exact {
    emits := even
    checks := fun k c => (Memory.related_eq (α := α) ▸
      (Criterion.carries_joined even).check_carried k shown c fun _ _ => trivial).mono
        fun _ _ same => same.1
    starts := Recorder.related_eq (α := α) ▸ Recorder.start_related shown
    records := fun size k => Recorder.related_eq (α := α) ▸ Recorder.record_related shown size k }

theorem Solver.joined_both {solver : Solver α S}
    (costs : ∀ x, ∀ cost ∈ (solver.view x).cost, ∀ p, Keeps I (cost p))
    (setUp : Keeps (fun s => I s.trail) solver.setUp)
    (step : ∀ k, Keeps (fun s => I s.trail) (solver.step k)) :
    Solver.Joined (Trail.Both I) Eq solver solver where
  name := rfl
  level := rfl
  view := by
    rintro x _ rfl
    rfl
  sameAnswers x := View.sameAnswers_both emits (costs x)
  setUp := Stage.joinedRuns_eq_joined ▸ Stage.keeps_trail_iff.mp setUp
  step k := Stage.joinedRuns_eq_joined ▸ Stage.keeps_trail_iff.mp (step k)

theorem Solver.solve_keeps_trail {solver : Solver α S}
    (costs : ∀ x, ∀ cost ∈ (solver.view x).cost, ∀ p, Keeps I (cost p))
    (setUp : Keeps (fun s => I s.trail) solver.setUp)
    (step : ∀ k, Keeps (fun s => I s.trail) (solver.step k)) (allowance : Nat)
    (recorder : Option (Recorder α)) :
    Keeps (fun s => I s.trail) (solver.solve allowance recorder) := by
  have joined := Solver.joined_both emits costs setUp step
  exact Stage.keeps_trail_iff.mpr (Stage.joinedRuns_eq_joined ▸ joined.solve allowance recorder)

end Trails

theorem Solver.Course.counted {solver : Solver α S} {recorder : Option (Recorder α)}
    {first : Stage α (Run α S)} {n : Nat} {stages : Nat → Stage α (Run α S)}
    {calls : List Nat → Nat}
    (costs : ∀ count x, ∀ cost ∈ (solver.view x).cost, ∀ p,
      Keeps (fun t => calls t.tally = count) (cost p))
    (setUp : ∀ count, Keeps (fun s => calls s.trail.tally = count) solver.setUp)
    (step : ∀ k s t, solver.step k s = .ok () t →
      calls t.trail.tally = calls s.trail.tally + 1)
    (course : Solver.Course solver recorder first n stages) {k : Nat} (inside : k ≤ n) :
    calls (stages k).trail.tally = calls first.trail.tally + k ∧
      ∀ stops t, solver.shouldStop k (stages k) = .ok stops t →
        calls t.trail.tally = calls first.trail.tally + k := by
  have joined (count : Nat) : Solver.Joined (Trail.Both fun t => calls t.tally = count) Eq
      solver.idle solver.idle :=
    Solver.joined_both (fun _ _ before => before) (costs count) (setUp count) fun _ => keeps_pure ()
  have keeps {β : Type} {m : Running α S β} (couples : ∀ count, Couples
      (Stage.JoinedRuns (Trail.Both fun t => calls t.tally = count) Eq) Eq m m)
      {s t : Stage α (Run α S)} {b : β} (done : m s = .ok b t) :
      calls t.trail.tally = calls s.trail.tally := by
    have same := Stage.joinedRuns_eq_joined ▸ couples (calls s.trail.tally)
    exact (Stage.keeps_trail_iff.mpr same).of_ok rfl done
  have asks (j : Nat) {stops : Bool} {t : Stage α (Run α S)}
      (asked : solver.shouldStop j (stages j) = .ok stops t) :
      calls t.trail.tally = calls (stages j).trail.tally :=
    @keeps _ (solver.shouldStop j) (fun count => (joined count).shouldStop j) _ _ _ asked
  have stays : calls (stages k).trail.tally = calls first.trail.tally + k := by
    induction k with
    | zero =>
      exact @keeps _ (solver.prepare recorder) (fun count => (joined count).prepare recorder)
        _ _ _ course.prepared
    | succ k ih =>
      obtain ⟨t, asked, iterated⟩ := course.continued k inside
      obtain ⟨_, u, stepped, rest⟩ := bind_eq_ok.mp iterated
      have recorded : calls (stages (k + 1)).trail.tally = calls u.trail.tally :=
        keeps (fun count => (joined count).iterate (k + 1)) rest
      rw [recorded, step _ t u stepped, asks k asked, ih (by omega), Nat.add_assoc]
  exact ⟨stays, fun stops t asked => (asks k asked).trans stays⟩

namespace Solver

variable {H : Trail α → Trail α → Prop} {Q : S → T → Prop} {e : Fault α}
  {P : Int → Stage α (Run α S) → Stage α (Run α T) → Stage α (Run α S) → Prop}
  {solver : Solver α S} {solver' : Solver α T}

/-- Solvers that show the same and step alike, unless the step of the first one fails with `e`, of
which `P` says more. -/
structure Parts (H : Trail α → Trail α → Prop) (Q : S → T → Prop) (e : Fault α)
    (P : Int → Stage α (Run α S) → Stage α (Run α T) → Stage α (Run α S) → Prop)
    (solver : Solver α S) (solver' : Solver α T) : Prop where
  idle : Joined H Q solver.idle solver'.idle
  step : ∀ k s t, Stage.JoinedRuns H Q s t →
    Agree (Stage.JoinedRuns H Q) Eq (solver.step k s) (solver'.step k t) ∨
      ∃ u, solver.step k s = .error e u ∧ P k s t u

/-- Two runs go through like stages for `n` iterations, after which the first one breaks off. -/
structure PartsAt (H : Trail α → Trail α → Prop) (Q : S → T → Prop) (e : Fault α)
    (P : Int → Stage α (Run α S) → Stage α (Run α T) → Stage α (Run α S) → Prop)
    (solver : Solver α S) (solver' : Solver α T) (recorder : Option (Recorder α))
    (first : Stage α (Run α S)) (first' : Stage α (Run α T)) (n : Nat)
    (stages : Nat → Stage α (Run α S)) (stages' : Nat → Stage α (Run α T))
    (last : Stage α (Run α S)) : Prop where
  course : Course solver recorder first n stages
  course' : Course solver' recorder first' n stages'
  alike : ∀ k ≤ n, Stage.JoinedRuns H Q (stages k) (stages' k)
  broken : ∃ t t', solver.shouldStop n (stages n) = .ok false t ∧
    solver'.shouldStop n (stages' n) = .ok false t' ∧ Stage.JoinedRuns H Q t t' ∧
    solver.step (n + 1) t = .error e last ∧ P (n + 1) t t' last

variable {recorder : Option (Recorder α)} {first : Stage α (Run α S)} {first' : Stage α (Run α T)}
  {n : Nat} {stages : Nat → Stage α (Run α S)} {stages' : Nat → Stage α (Run α T)}
  {last : Stage α (Run α S)}

theorem PartsAt.breaksOff
    (parted : PartsAt H Q e P solver solver' recorder first first' n stages stages' last) :
    BreaksOff solver recorder first n stages e last := by
  obtain ⟨t, -, going, -, -, failed, -⟩ := parted.broken
  exact ⟨parted.course, t, going, failed⟩

variable (parts : Parts H Q e P solver solver')

include parts

theorem Parts.iterate (k : Int) {s : Stage α (Run α S)} {t : Stage α (Run α T)}
    (before : Stage.JoinedRuns H Q s t) :
    Agree (Stage.JoinedRuns H Q) Eq (solver.iterate k s) (solver'.iterate k t) ∨
      ∃ u, solver.step k s = .error e u ∧ P k s t u := by
  refine (parts.step k s t before).imp_left fun agree => ?_
  -- What follows the step is an iteration of the solvers that stay where they are.
  refine agree.bind fun _ _ s t _ after => ?_
  exact parts.idle.iterate k s t after

theorem Parts.loop (allowance : Nat) (course : Course solver recorder first n stages)
    (course' : Course solver' recorder first' n stages')
    (alike : ∀ k ≤ n, Stage.JoinedRuns H Q (stages k) (stages' k)) :
    Agree (Stage.JoinedRuns H Q) Eq (solver.loop allowance n (stages n))
        (solver'.loop allowance n (stages' n)) ∨
      ∃ m further further' last, n ≤ m ∧ m < n + allowance ∧
        PartsAt H Q e P solver solver' recorder first first' m further further' last := by
  -- Both courses grow by a stage with every iteration in which the runs do not part.
  induction allowance generalizing n stages stages' with
  | zero => exact .inl (.error (alike n (Nat.le_refl n)))
  | succ allowance ih =>
    have asked := parts.idle.shouldStop n _ _ (alike n (Nat.le_refl n))
    change Agree _ Eq (solver.shouldStop n (stages n)) (solver'.shouldStop n (stages' n)) at asked
    unfold loop
    generalize given : solver.shouldStop n (stages n) = x,
      given' : solver'.shouldStop n (stages' n) = y at asked
    cases asked with
    | error after =>
      rw [bind_of_error given, bind_of_error given']
      exact .inl (.error after)
    | @ok stops _ t t' related after =>
      subst related
      rw [bind_of_ok given, bind_of_ok given']
      cases stops with
      | true => exact .inl (parts.idle.finish n t t' after)
      | false =>
        rw [if_neg Bool.false_ne_true, if_neg Bool.false_ne_true]
        rcases parts.iterate (n + 1) after with agree | ⟨u, failed, apart⟩
        · generalize iterated : solver.iterate (n + 1) t = x,
            iterated' : solver'.iterate (n + 1) t' = y at agree
          cases agree with
          | error after =>
            rw [bind_of_error iterated, bind_of_error iterated']
            exact .inl (.error after)
          | @ok _ _ u u' _ after =>
            rw [bind_of_ok iterated, bind_of_ok iterated']
            have grown : ∀ k ≤ n + 1, Stage.JoinedRuns H Q (Function.update stages (n + 1) u k)
                (Function.update stages' (n + 1) u' k) := by
              intro k inside
              by_cases new : k = n + 1
              · subst new
                rw [Function.update_self, Function.update_self]
                exact after
              · rw [Function.update_of_ne new, Function.update_of_ne new]
                exact alike k (by omega)
            have further := ih (course.extend given iterated) (course'.extend given' iterated') grown
            rw [Function.update_self, Function.update_self] at further
            refine further.imp_right ?_
            rintro ⟨m, further, further', last, above, below, parted⟩
            exact ⟨m, further, further', last, by omega, by omega, parted⟩
        · exact .inr ⟨n, stages, stages', u, Nat.le_refl n, by omega, course, course', alike,
            t, t', given, given', after, failed, apart⟩

theorem Parts.solve (start : Stage.JoinedRuns H Q first first')
    (recorder : Option (Recorder α)) (allowance : Nat) :
    Agree (Stage.JoinedRuns H Q) Eq (solver.solve allowance recorder first)
        (solver'.solve allowance recorder first') ∨
      ∃ n stages stages' last, n < allowance ∧
        PartsAt H Q e P solver solver' recorder first first' n stages stages' last := by
  have prepared := parts.idle.prepare recorder first first' start
  change Agree _ Eq (solver.prepare recorder first) (solver'.prepare recorder first') at prepared
  unfold Solver.solve
  generalize given : solver.prepare recorder first = x,
    given' : solver'.prepare recorder first' = y at prepared
  cases prepared with
  | error after =>
    rw [bind_of_error given, bind_of_error given']
    exact .inl (.error after)
  | @ok _ _ s s' _ after =>
    rw [bind_of_ok given, bind_of_ok given']
    have course : Course solver recorder first 0 fun _ => s :=
      ⟨given, fun k inside => absurd inside (Nat.not_lt_zero k)⟩
    have course' : Course solver' recorder first' 0 fun _ => s' :=
      ⟨given', fun k inside => absurd inside (Nat.not_lt_zero k)⟩
    refine (parts.loop allowance course course' fun _ _ => after).imp_right ?_
    rintro ⟨m, further, further', last, -, below, parted⟩
    exact ⟨m, further, further', last, by omega, parted⟩

omit parts in
theorem Course.congr {further : Nat → Stage α (Run α S)}
    (course : Course solver recorder first n stages) (same : ∀ k ≤ n, further k = stages k) :
    Course solver recorder first n further := by
  refine ⟨by rw [same 0 (Nat.zero_le n)]; exact course.prepared, fun k inside => ?_⟩
  rw [same k (Nat.le_of_lt inside), same (k + 1) inside]
  exact course.continued k inside

omit parts in
theorem Parts.solve_same {I : Trail α → Prop} {solver' : Solver α S}
    {P : Int → Stage α (Run α S) → Stage α (Run α S) → Stage α (Run α S) → Prop}
    (parts : Parts (Trail.Both I) Eq e P solver solver') (before : I first.trail)
    (recorder : Option (Recorder α)) (allowance : Nat) :
    (solver.solve allowance recorder first = solver'.solve allowance recorder first ∧
      I (left (solver.solve allowance recorder first)).trail) ∨
    ∃ n stages t last, n < allowance ∧ Course solver' recorder first n stages ∧
      BreaksOff solver recorder first n stages e last ∧ I (stages n).trail ∧
      solver.shouldStop n (stages n) = .ok false t ∧ P (n + 1) t t last := by
  have both : Stage.JoinedRuns (Trail.Both I) (Eq : S → S → Prop) =
      fun s t => s = t ∧ I s.trail := by
    rw [Stage.joinedRuns_eq_joined, Stage.joined_both_eq]
  have start : Stage.JoinedRuns (Trail.Both I) Eq first first := both ▸ ⟨rfl, before⟩
  refine (parts.solve start recorder allowance).imp (fun agree => ?_) ?_
  · rw [both] at agree
    generalize solver.solve allowance recorder first = x,
      solver'.solve allowance recorder first = y at agree ⊢
    cases agree with
    | ok related after =>
      obtain ⟨rfl, holds⟩ := after
      exact ⟨by rw [related], holds⟩
    | error after =>
      obtain ⟨rfl, holds⟩ := after
      exact ⟨rfl, holds⟩
  · rintro ⟨n, stages, stages', last, unspent, parted⟩
    obtain ⟨t, t', going, -, between, -, apart⟩ := parted.broken
    have alike := parted.alike
    rw [both] at alike between
    obtain ⟨rfl, -⟩ := between
    have course := parted.course'.congr fun k inside => (alike k inside).1
    exact ⟨n, stages, t, last, unspent, course, parted.breaksOff, (alike n (Nat.le_refl n)).2, going,
      apart⟩

omit parts in
theorem Parts.joined (parts : Parts H Q e P solver solver') (never : ∀ k s t u, ¬ P k s t u) :
    Joined H Q solver solver' :=
  { parts.idle with
    step := fun k s t before => (parts.step k s t before).resolve_right fun ⟨u, _, parted⟩ =>
      never k s t u parted }

end Solver

end ManifoldOpt
