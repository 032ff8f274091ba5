import ManifoldOpt.Proofs.Solver.Ending
import ManifoldOpt.Proofs.Solver.Events

/-!
How much a run computes. A meter reads off a run what it has used up of something, such as calls of a
function. Neither asking the stopping rule nor recording uses anything up, so that a run uses up what
its steps do.
-/

set_option autoImplicit false

namespace ManifoldOpt

open Attempt

/-- A reading of the calls made so far and the solver's own state, for the states it admits. -/
structure Meter (S : Type) where
  admits : S → Prop
  reading : List Nat → S → Nat

namespace Meter

variable {α S β γ : Type} (meter : Meter S)

def read (s : Stage α (Run α S)) : Nat := meter.reading s.trail.tally s.state.own

/-- From states that the meter admits a computation leads to such states, and the reading rises by
at most the given amount. -/
def Bounds (amount : Nat) (m : Running α S β) : Prop :=
  ∀ s, meter.admits s.state.own →
    meter.admits (left (m s)).state.own ∧ meter.read (left (m s)) ≤ meter.read s + amount

variable {meter} {m : Running α S β} {f : β → Running α S γ} {a b : Nat}

theorem Bounds.of_ok (bounds : meter.Bounds a m) {s t : Stage α (Run α S)} {c : β}
    (admitted : meter.admits s.state.own) (done : m s = .ok c t) :
    meter.admits t.state.own ∧ meter.read t ≤ meter.read s + a := by
  have after := bounds s admitted
  rw [done] at after
  exact after

theorem Bounds.of_error (bounds : meter.Bounds a m) {s t : Stage α (Run α S)} {e : Fault α}
    (admitted : meter.admits s.state.own) (failed : m s = .error e t) :
    meter.admits t.state.own ∧ meter.read t ≤ meter.read s + a := by
  have after := bounds s admitted
  rw [failed] at after
  exact after

theorem Bounds.mono (bounds : meter.Bounds a m) (le : a ≤ b) : meter.Bounds b m := by
  intro s admitted
  obtain ⟨after, reads⟩ := bounds s admitted
  exact ⟨after, by omega⟩

theorem Bounds.bind (first : meter.Bounds a m) (rest : ∀ c, meter.Bounds b (f c)) :
    meter.Bounds (a + b) (m >>= f) := by
  intro s admitted
  cases given : m s with
  | error e t =>
    rw [bind_of_error given]
    obtain ⟨after, reads⟩ := first.of_error admitted given
    exact ⟨after, Nat.le_trans reads (by omega)⟩
  | ok c t =>
    rw [bind_of_ok given]
    obtain ⟨between, reads⟩ := first.of_ok admitted given
    obtain ⟨after, reads'⟩ := rest c t between
    exact ⟨after, by omega⟩

theorem Bounds.free_bind (first : meter.Bounds 0 m) (rest : ∀ c, meter.Bounds b (f c)) :
    meter.Bounds b (m >>= f) := (first.bind rest).mono (by omega)

theorem Bounds.ite {p : Prop} [Decidable p] {m' : Running α S β} (yes : p → meter.Bounds a m)
    (no : ¬ p → meter.Bounds a m') : meter.Bounds a (if p then m else m') := by
  split
  · exact yes ‹_›
  · exact no ‹_›

theorem Bounds.of_keeps (keeps : ∀ tally own,
    Keeps (fun s => s.trail.tally = tally ∧ s.state.own = own) m) : meter.Bounds 0 m := by
  intro s admitted
  obtain ⟨tally, own⟩ := (keeps s.trail.tally s.state.own).left ⟨rfl, rfl⟩
  unfold read
  rw [tally, own]
  exact ⟨admitted, Nat.le_refl _⟩

theorem Bounds.pure (c : β) : meter.Bounds 0 (pure c : Running α S β) := fun _ admitted =>
  ⟨admitted, Nat.le_refl _⟩

theorem Bounds.throw (e : Fault α) : meter.Bounds 0 (throw e : Running α S β) := fun _ admitted =>
  ⟨admitted, Nat.le_refl _⟩

theorem Bounds.liftM (x : Outcome α β) : meter.Bounds 0 (liftM x : Running α S β) :=
  .of_keeps fun _ _ => keeps_liftM x

theorem Bounds.emit (event : Event α) : meter.Bounds 0 (Stage.emit event : Running α S Unit) :=
  fun _ admitted => ⟨admitted, Nat.le_refl _⟩

theorem Bounds.setStepsize (size : Option α) :
    meter.Bounds 0 (Running.setStepsize size : Running α S Unit) :=
  fun _ admitted => ⟨admitted, Nat.le_refl _⟩

theorem Bounds.getOwn_bind {f : S → Running α S β}
    (rest : ∀ own, meter.admits own → meter.Bounds a (f own)) :
    meter.Bounds a (Running.getOwn >>= f) := fun s admitted => rest s.state.own admitted s admitted

end Meter

namespace Solver

variable {α S : Type} [Scalar α] {solver : Solver α S} {meter : Meter S}

def Uncounted (solver : Solver α S) : Prop :=
  ∀ x, ∀ cost ∈ (solver.view x).cost, ∀ p tally,
    Keeps (fun t : Trail α => t.tally = tally) (cost p)

theorem shouldStop_free (k : Int) : meter.Bounds 0 (solver.shouldStop k) := by
  refine .of_keeps fun tally own => ?_
  refine Keeps.bind (fun _ before => before) fun r => ?_
  refine Stage.keeps_within_of (J := fun t => t.trail.tally = tally) (fun s before => before.1)
    (fun s t before after => ⟨after, before.2⟩) ?_
  exact Criterion.check_keeps (fun _ _ _ _ _ before => before) (fun _ _ _ _ _ before => before)
    (fun _ _ before => before) k

omit [Scalar α] in
theorem withRecorder_free {m : Attempt α (Stage α (Recorder α)) Unit}
    (keeps : ∀ tally, Keeps (fun t => t.trail.tally = tally) m) :
    meter.Bounds 0 (withRecorder m : Running α S Unit) := by
  refine .of_keeps fun tally own => ?_
  refine Keeps.bind (fun _ before => before) fun r => ?_
  cases r.recorder with
  | none => exact keeps_pure _
  | some recorder =>
    exact Stage.keeps_within_of (fun s before => before.1) (fun s t before after => ⟨after, before.2⟩)
      (keeps tally)

theorem startRecorder_free : meter.Bounds 0 solver.startRecorder := by
  intro s
  refine withRecorder_free (fun tally => ?_) s
  refine Keeps.bind (fun _ before => before) fun _ => (keeps_liftM _).bind fun _ => ?_
  exact (keeps_liftM _).bind fun p => fun _ before => before

theorem finish_free (k : Int) : meter.Bounds 0 (solver.finish k) := by
  refine Meter.Bounds.free_bind (fun _ admitted => ⟨admitted, Nat.le_refl _⟩) fun r => ?_
  refine (Meter.Bounds.liftM _).free_bind fun level => ?_
  exact .ite (fun _ => .emit _) fun _ => .pure _

theorem measure_keeps {view : View α} {tally : List Nat}
    (uncounted : ∀ cost ∈ view.cost, ∀ p, Keeps (fun t : Trail α => t.tally = tally) (cost p))
    (size : Option α) (k : Int) (previous : Option (Tensor α)) (f : Field) :
    Keeps (fun t => t.tally = tally) (Recorder.measure view size k previous f) := by
  cases f with
  | iteration => exact keeps_pure _
  | iterate => exact (keeps_liftM _).bind fun _ => (keeps_liftM _).bind fun p => keeps_pure _
  | change =>
    refine (keeps_liftM _).bind fun M => (keeps_liftM _).bind fun p => ?_
    exact (keeps_liftM _).bind fun size => keeps_pure _
  | cost =>
    unfold Recorder.measure
    cases given : view.cost with
    | none => exact keeps_throw _
    | some cost =>
      refine (keeps_liftM _).bind fun p => ?_
      cases p with
      | none => exact keeps_throw _
      | some p => exact (uncounted cost given p).bind fun c => keeps_pure _
  | stepsize => exact keeps_pure _
  | directionNorm =>
    refine (keeps_liftM _).bind fun M => (keeps_liftM _).bind fun v => ?_
    exact (keeps_liftM _).bind fun size => keeps_pure _

theorem recordIteration_free (uncounted : solver.Uncounted) (k : Int) :
    meter.Bounds 0 (solver.recordIteration k) := by
  intro s
  refine withRecorder_free (fun tally => ?_) s
  refine Keeps.bind (fun _ before => before) fun r => ?_
  have each (fields : List Field) : Keeps (fun t => t.trail.tally = tally)
      (Recorder.recordEach (solver.view s.state.own) s.state.lastStepsize k fields) := by
    induction fields with
    | nil => exact keeps_pure _
    | cons f rest ih =>
      refine Keeps.bind (fun _ before => before) fun r => Keeps.bind ?_ fun entry =>
        Keeps.bind (fun _ before => before) fun _ => ih
      refine Stage.keeps_onTrail_of (J := fun t => t.tally = tally) (fun _ before => before)
        (fun _ _ _ after => after) ?_
      exact measure_keeps (fun cost given p => uncounted _ cost given p tally) _ _ _ _
  refine (each r.fields).bind fun _ => (keeps_liftM _).bind fun _ => ?_
  exact (keeps_liftM _).bind fun p => fun _ before => before

variable {recorder : Option (Recorder α)} {first : Stage α (Run α S)} {amount : Nat}
  (uncounted : solver.Uncounted) (setUp : meter.Bounds 0 solver.setUp)
  (step : ∀ k, meter.Bounds amount (solver.step k))

include uncounted step in
theorem iterate_bounds (k : Int) : meter.Bounds amount (solver.iterate k) := by
  refine ((step k).bind fun _ => Meter.Bounds.free_bind (b := 0) ?_ fun _ => ?_).mono (Nat.le_refl _)
  · exact fun _ admitted => ⟨admitted, Nat.le_refl _⟩
  · refine (recordIteration_free uncounted k).free_bind fun _ => ?_
    exact Meter.Bounds.free_bind (fun _ admitted => ⟨admitted, Nat.le_refl _⟩) fun r => .emit _

include setUp in
theorem prepare_free (recorder : Option (Recorder α)) : meter.Bounds 0 (solver.prepare recorder) := by
  intro s admitted
  rw [prepare_eq]
  refine Meter.Bounds.free_bind setUp (fun _ => ?_) ⟨s.trail, s.state.attach recorder⟩ admitted
  exact Meter.Bounds.free_bind (fun _ admitted => ⟨admitted, Nat.le_refl _⟩) fun _ =>
    startRecorder_free

include uncounted setUp step

theorem Course.bounds {n : Nat} {stages : Nat → Stage α (Run α S)}
    (course : Course solver recorder first n stages) (admitted : meter.admits first.state.own)
    {k : Nat} (inside : k ≤ n) :
    meter.admits (stages k).state.own ∧
      meter.read (stages k) ≤ meter.read first + k * amount := by
  induction k with
  | zero =>
    have after := prepare_free setUp recorder first admitted
    rw [course.prepared] at after
    rw [Nat.zero_mul]
    exact after
  | succ k ih =>
    obtain ⟨before, reads⟩ := ih (by omega)
    obtain ⟨t, asked, iterated⟩ := course.continued k inside
    obtain ⟨between, reads'⟩ := (shouldStop_free k).of_ok before asked
    obtain ⟨after, reads''⟩ := (iterate_bounds uncounted step (k + 1)).of_ok between iterated
    refine ⟨after, ?_⟩
    rw [Nat.add_mul, Nat.one_mul]
    omega

theorem Ends.bounds {allowance begun completed recorded : Nat}
    {result : EStateM.Result (Fault α) (Stage α (Run α S)) Unit}
    (ends : Ends solver allowance recorder first begun completed recorded result)
    (admitted : meter.admits first.state.own) :
    meter.read (left result) ≤ meter.read first + begun * amount := by
  cases ends with
  | unprepared failed =>
    rw [Nat.zero_mul]
    exact ((prepare_free setUp recorder).of_error admitted failed).2
  | @after n _ _ _ stages _ course ending =>
    obtain ⟨before, reads⟩ := course.bounds uncounted setUp step admitted (Nat.le_refl n)
    cases ending with
    | exhausted spent => exact reads
    | stopped unspent fired =>
      obtain ⟨between, reads'⟩ := (shouldStop_free _).of_ok before fired
      exact Nat.le_trans (finish_free _ _ between).2 (by omega)
    | unanswered unspent failed =>
      exact Nat.le_trans ((shouldStop_free _).of_error before failed).2 reads
    | interrupted unspent going failed =>
      obtain ⟨between, reads'⟩ := (shouldStop_free _).of_ok before going
      have last := ((step _).of_error between failed).2
      rw [Nat.add_mul, Nat.one_mul]
      exact Nat.le_trans last (by omega)
    | unrecorded unspent going stepped failed =>
      obtain ⟨between, reads'⟩ := (shouldStop_free _).of_ok before going
      have iterated := iterate_eq_error.mpr (.inr ⟨_, stepped, failed⟩)
      have last := ((iterate_bounds uncounted step _).of_error between iterated).2
      rw [Nat.add_mul, Nat.one_mul]
      exact Nat.le_trans last (by omega)

end Solver

end ManifoldOpt
