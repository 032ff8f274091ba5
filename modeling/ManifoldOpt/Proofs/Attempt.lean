import ManifoldOpt.Solver.Run

set_option autoImplicit false

namespace ManifoldOpt

theorem Outcome.bind_eq_ok {α β γ : Type} {x : Outcome α β} {f : β → Outcome α γ} {c : γ} :
    (x >>= f) = .ok c ↔ ∃ b, x = .ok b ∧ f b = .ok c := by
  cases x with
  | ok b => simp [bind, Except.bind]
  | error e => simp [bind, Except.bind]

theorem Outcome.bind_eq_error {α β γ : Type} {x : Outcome α β} {f : β → Outcome α γ}
    {e : Fault α} : (x >>= f) = .error e ↔ x = .error e ∨ ∃ b, x = .ok b ∧ f b = .error e := by
  cases x with
  | ok b => simp [bind, Except.bind]
  | error e => simp [bind, Except.bind]

/-- The first member that fails decides on the fault. -/
theorem mapM_eq_error {α β γ : Type} {f : β → Outcome α γ} {xs : List β} {e : Fault α}
    (failed : xs.mapM f = .error e) :
    ∃ before x after, xs = before ++ x :: after ∧ (∀ y ∈ before, ∃ c, f y = .ok c) ∧
      f x = .error e := by
  induction xs with
  | nil => cases failed
  | cons x xs ih =>
    rw [List.mapM_cons] at failed
    rcases Outcome.bind_eq_error.mp failed with failed | ⟨c, given, failed⟩
    · exact ⟨[], x, xs, rfl, nofun, failed⟩
    rcases Outcome.bind_eq_error.mp failed with failed | ⟨_, _, impossible⟩
    · obtain ⟨before, y, after, rfl, fine, failed⟩ := ih failed
      exact ⟨x :: before, y, after, rfl, List.forall_mem_cons.mpr ⟨⟨c, given⟩, fine⟩, failed⟩
    · cases impossible

namespace Attempt

variable {α σ τ β γ : Type}

theorem bind_eq_ok {m : Attempt α σ β} {f : β → Attempt α σ γ} {s u : σ} {c : γ} :
    (m >>= f) s = .ok c u ↔ ∃ b t, m s = .ok b t ∧ f b t = .ok c u := by
  change EStateM.bind m f s = _ ↔ _
  cases first : m s with
  | ok b t => simp [EStateM.bind, first, and_assoc]
  | error e t => simp [EStateM.bind, first]

theorem bind_eq_error {m : Attempt α σ β} {f : β → Attempt α σ γ} {s u : σ} {e : Fault α} :
    (m >>= f) s = .error e u ↔
      m s = .error e u ∨ ∃ b t, m s = .ok b t ∧ f b t = .error e u := by
  change EStateM.bind m f s = _ ↔ _
  cases first : m s with
  | ok b t => simp [EStateM.bind, first, and_assoc]
  | error e t => simp [EStateM.bind, first]

theorem bind_of_ok {m : Attempt α σ β} {f : β → Attempt α σ γ} {s t : σ} {b : β}
    (first : m s = .ok b t) : (m >>= f) s = f b t := by
  change EStateM.bind m f s = _
  rw [EStateM.bind, first]

theorem bind_of_error {m : Attempt α σ β} {f : β → Attempt α σ γ} {s t : σ} {e : Fault α}
    (failed : m s = .error e t) : (m >>= f) s = .error e t :=
  bind_eq_error.mpr (.inl failed)

theorem pure_eq_ok {s t : σ} {b c : β} :
    (pure b : Attempt α σ β) s = .ok c t ↔ b = c ∧ s = t := by
  change EStateM.Result.ok b s = _ ↔ _
  simp

theorem throw_ne_ok {e : Fault α} {s t : σ} {b : β} :
    ¬ (throw e : Attempt α σ β) s = .ok b t := by
  intro impossible
  cases impossible

theorem liftM_eq_ok {x : Outcome α β} {s t : σ} {b : β} :
    (liftM x : Attempt α σ β) s = .ok b t ↔ x = .ok b ∧ s = t := by
  change ofOutcome x s = _ ↔ _
  cases x <;> simp [ofOutcome]

theorem liftM_eq_error {x : Outcome α β} {s t : σ} {e : Fault α} :
    (liftM x : Attempt α σ β) s = .error e t ↔ x = .error e ∧ s = t := by
  change ofOutcome x s = _ ↔ _
  cases x <;> simp [ofOutcome]

theorem liftM_bind_eq_ok {x : Outcome α β} {f : β → Attempt α σ γ} {s t : σ} {c : γ} :
    (liftM x >>= f) s = .ok c t ↔ ∃ b, x = .ok b ∧ f b s = .ok c t := by
  simp [bind_eq_ok, liftM_eq_ok, and_assoc]

theorem liftM_bind_eq_error {x : Outcome α β} {f : β → Attempt α σ γ} {s t : σ} {e : Fault α} :
    (liftM x >>= f) s = .error e t ↔
      x = .error e ∧ s = t ∨ ∃ b, x = .ok b ∧ f b s = .error e t := by
  simp [bind_eq_error, liftM_eq_ok, liftM_eq_error, and_assoc]

theorem liftM_ok_bind {b : β} {f : β → Attempt α σ γ} :
    (liftM (.ok b : Outcome α β) >>= f : Attempt α σ γ) = f b := rfl

theorem focus_eq_ok {part : σ → τ} {put : τ → σ → σ} {m : Attempt α τ β} {s u : σ} {b : β} :
    focus part put m s = .ok b u ↔ ∃ t, m (part s) = .ok b t ∧ u = put t s := by
  unfold focus
  cases m (part s) with
  | ok c t => simp [eq_comm, and_assoc]
  | error e t => simp

theorem focus_eq_error {part : σ → τ} {put : τ → σ → σ} {m : Attempt α τ β} {s u : σ}
    {e : Fault α} :
    focus part put m s = .error e u ↔ ∃ t, m (part s) = .error e t ∧ u = put t s := by
  unfold focus
  cases m (part s) with
  | ok c t => simp
  | error e t => simp [eq_comm, and_assoc]

def left : EStateM.Result (Fault α) σ β → σ
  | .ok _ s => s
  | .error _ s => s

theorem left_liftM (x : Outcome α β) (s : σ) : left ((liftM x : Attempt α σ β) s) = s := by
  cases x <;> rfl

/-- A computation keeps a property of the state, whether it gives a value or fails. -/
def Keeps (I : σ → Prop) (m : Attempt α σ β) : Prop :=
  ∀ s, I s → match m s with
    | .ok _ t => I t
    | .error _ t => I t

section Keeps

variable {I : σ → Prop} {m : Attempt α σ β} {f : β → Attempt α σ γ}

theorem Keeps.of_ok (keeps : Keeps I m) {s t : σ} {b : β} (before : I s) (done : m s = .ok b t) :
    I t := by
  have after := keeps s before
  rw [done] at after
  exact after

theorem Keeps.of_error (keeps : Keeps I m) {s t : σ} {e : Fault α} (before : I s)
    (failed : m s = .error e t) : I t := by
  have after := keeps s before
  rw [failed] at after
  exact after

theorem Keeps.left (keeps : Keeps I m) {s : σ} (before : I s) : I (left (m s)) := by
  have after := keeps s before
  generalize m s = x at after ⊢
  cases x with
  | ok b t => exact after
  | error e t => exact after

theorem Keeps.of_related {R : σ → σ → Prop} (related : ∀ s, Keeps (R s) m) (refl : ∀ s, R s s)
    (kept : ∀ s t, I s → R s t → I t) : Keeps I m := by
  intro s before
  have after := related s s (refl s)
  generalize m s = x at after ⊢
  cases x with
  | ok b t => exact kept s t before after
  | error e t => exact kept s t before after

theorem Keeps.bind (first : Keeps I m) (rest : ∀ b, Keeps I (f b)) : Keeps I (m >>= f) := by
  intro s before
  -- If the first part fails, what it left behind is all that is left.
  change match EStateM.bind m f s with | .ok _ t => I t | .error _ t => I t
  cases given : m s with
  | ok b t =>
    simp only [EStateM.bind, given]
    exact rest b t (first.of_ok before given)
  | error e t =>
    simp only [EStateM.bind, given]
    exact first.of_error before given

theorem Keeps.of_left (kept : ∀ s, I s → I (Attempt.left (m s))) : Keeps I m := by
  intro s before
  have after := kept s before
  generalize m s = x at after ⊢
  cases x with
  | ok b t => exact after
  | error e t => exact after

theorem Keeps.bind_of_ok (first : Keeps I m)
    (rest : ∀ s b t, m s = .ok b t → I t → I (Attempt.left (f b t))) : Keeps I (m >>= f) := by
  refine .of_left fun s before => ?_
  cases given : m s with
  | ok b t =>
    rw [Attempt.bind_of_ok given]
    exact rest s b t given (first.of_ok before given)
  | error e t =>
    rw [bind_of_error given]
    exact first.of_error before given

theorem Keeps.and {J : σ → Prop} (keeps : Keeps I m) (keeps' : Keeps J m) :
    Keeps (fun s => I s ∧ J s) m := by
  rintro s ⟨before, before'⟩
  have after := keeps s before
  have after' := keeps' s before'
  generalize m s = x at after after' ⊢
  cases x with
  | ok b t => exact ⟨after, after'⟩
  | error e t => exact ⟨after, after'⟩

theorem keeps_pure (b : β) : Keeps I (pure b : Attempt α σ β) := fun _ before => before

theorem keeps_throw (e : Fault α) : Keeps I (throw e : Attempt α σ β) := fun _ before => before

theorem keeps_liftM (x : Outcome α β) : Keeps I (liftM x : Attempt α σ β) := by
  intro s before
  cases x with
  | ok b => exact before
  | error e => exact before

theorem Keeps.lift_bind {x : Outcome α β} (rest : ∀ b, x = .ok b → Keeps I (f b)) :
    Keeps I (liftM x >>= f) := by
  cases x with
  | ok b => exact rest b rfl
  | error e => exact fun _ before => before

theorem Keeps.ite {p : Prop} [Decidable p] {m' : Attempt α σ β} (yes : p → Keeps I m)
    (no : ¬ p → Keeps I m') : Keeps I (if p then m else m') := by
  split
  · exact yes ‹_›
  · exact no ‹_›

end Keeps

end Attempt

namespace Stage

variable {α S T β : Type}

theorem getState_bind (f : S → Attempt α (Stage α S) β) (s : Stage α S) :
    (getState >>= f) s = f s.state s := rfl

open Attempt in
theorem keeps_onTrail (I : S → Prop) (m : Attempt α (Trail α) β) :
    Keeps (fun s : Stage α S => I s.state) (onTrail m) := by
  intro s before
  unfold onTrail focus
  cases m s.trail with
  | ok b t => exact before
  | error e t => exact before

open Attempt in
theorem keeps_emit (I : S → Prop) (event : Event α) :
    Keeps (fun s : Stage α S => I s.state) (emit event) := keeps_onTrail I _

open Attempt in
theorem keeps_within {I : S → Prop} {part : S → T} {put : T → S → S}
    (keeps : ∀ t s, I s → I (put t s)) (m : Attempt α (Stage α T) β) :
    Keeps (fun s : Stage α S => I s.state) (within part put m) := by
  intro s before
  unfold within focus
  cases m ⟨s.trail, part s.state⟩ with
  | ok b t => exact keeps t.state s.state before
  | error e t => exact keeps t.state s.state before

open Attempt in
theorem keeps_onTrail_of {I : Stage α S → Prop} {J : Trail α → Prop} {m : Attempt α (Trail α) β}
    (parts : ∀ s, I s → J s.trail) (puts : ∀ s t, I s → J t → I { s with trail := t })
    (keeps : Keeps J m) : Keeps I (onTrail m) := by
  intro s before
  have after := keeps s.trail (parts s before)
  unfold onTrail focus
  generalize m s.trail = x at after ⊢
  cases x with
  | ok b t => exact puts s t before after
  | error e t => exact puts s t before after

open Attempt in
theorem keeps_within_of {I : Stage α S → Prop} {J : Stage α T → Prop} {part : S → T}
    {put : T → S → S} {m : Attempt α (Stage α T) β}
    (parts : ∀ s, I s → J ⟨s.trail, part s.state⟩)
    (puts : ∀ s t, I s → J t → I ⟨t.trail, put t.state s.state⟩) (keeps : Keeps J m) :
    Keeps I (within part put m) := by
  intro s before
  have after := keeps ⟨s.trail, part s.state⟩ (parts s before)
  unfold within focus
  generalize m ⟨s.trail, part s.state⟩ = x at after ⊢
  cases x with
  | ok b t => exact puts s t before after
  | error e t => exact puts s t before after

theorem onTrail_eq_ok {m : Attempt α (Trail α) β} {s u : Stage α S} {b : β} :
    onTrail m s = .ok b u ↔ ∃ t, m s.trail = .ok b t ∧ u = { s with trail := t } :=
  Attempt.focus_eq_ok

theorem onTrail_eq_error {m : Attempt α (Trail α) β} {s u : Stage α S} {e : Fault α} :
    onTrail m s = .error e u ↔ ∃ t, m s.trail = .error e t ∧ u = { s with trail := t } :=
  Attempt.focus_eq_error

def noting (event : Event α) (s : Stage α S) : Stage α S :=
  { s with trail := { s.trail with events := event :: s.trail.events } }

theorem within_eq_ok {part : S → T} {put : T → S → S} {m : Attempt α (Stage α T) β}
    {s u : Stage α S} {b : β} :
    within part put m s = .ok b u ↔
      ∃ t, m ⟨s.trail, part s.state⟩ = .ok b t ∧ u = ⟨t.trail, put t.state s.state⟩ :=
  Attempt.focus_eq_ok

theorem within_eq_error {part : S → T} {put : T → S → S} {m : Attempt α (Stage α T) β}
    {s u : Stage α S} {e : Fault α} :
    within part put m s = .error e u ↔
      ∃ t, m ⟨s.trail, part s.state⟩ = .error e t ∧ u = ⟨t.trail, put t.state s.state⟩ :=
  Attempt.focus_eq_error

theorem runFrom_eq_ok {state : S} {m : Attempt α (Stage α S) β} {s t : Trail α} {b : β × S} :
    runFrom state m s = .ok b t ↔ m ⟨s, state⟩ = .ok b.1 ⟨t, b.2⟩ := by
  unfold runFrom
  rcases m ⟨s, state⟩ with ⟨c, u⟩ | ⟨e, u⟩
  · constructor
    · rintro ⟨⟩
      rfl
    · rintro ⟨⟩
      rfl
  · simp

end Stage

namespace Running

variable {α S : Type}

theorem getOwn_bind {β : Type} (f : S → Running α S β) (s : Stage α (Run α S)) :
    (getOwn >>= f) s = f s.state.own s := rfl

theorem modifyOwn_bind {β : Type} (f : S → S) (g : Unit → Running α S β) (s : Stage α (Run α S)) :
    (modifyOwn f >>= g) s = g () { s with state := { s.state with own := f s.state.own } } := rfl

theorem setStepsize_bind {β : Type} (size : Option α) (g : Unit → Running α S β)
    (s : Stage α (Run α S)) :
    (setStepsize size >>= g) s = g () { s with state := { s.state with lastStepsize := size } } :=
  rfl

open Attempt in
theorem keeps_getOwn (I : Run α S → Prop) :
    Keeps (fun s => I s.state) (getOwn : Running α S S) := fun _ before => before

open Attempt in
theorem keeps_modifyOwn {I : Run α S → Prop} {f : S → S}
    (keeps : ∀ r, I r → I { r with own := f r.own }) :
    Keeps (fun s => I s.state) (modifyOwn f : Running α S Unit) := fun s before =>
  keeps s.state before

end Running

end ManifoldOpt
