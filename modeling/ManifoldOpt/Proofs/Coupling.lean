import Mathlib.Data.List.Forall2
import ManifoldOpt.Proofs.Attempt

/-!
Computations that agree. Two computations are coupled if, from related states, both give related
values or both fail in the same way, and leave related states behind. Stages are related regardless
of the events on their trails, since no computation has a use for what has been reported.
-/

set_option autoImplicit false

namespace ManifoldOpt

/-- Outcomes of one kind: related values or the same fault. -/
inductive Outcome.Agree {α β γ : Type} (V : β → γ → Prop) : Outcome α β → Outcome α γ → Prop
  | ok {b : β} {c : γ} (related : V b c) : Agree V (.ok b) (.ok c)
  | error (e : Fault α) : Agree V (.error e) (.error e)

namespace Outcome

variable {α β γ δ ε ι : Type} {V : β → γ → Prop} {W : δ → ε → Prop}

theorem Agree.mono {V' : β → γ → Prop} {x : Outcome α β} {y : Outcome α γ} (agree : Agree V x y)
    (values : ∀ b c, V b c → V' b c) : Agree V' x y := by
  cases agree with
  | ok related => exact .ok (values _ _ related)
  | error e => exact .error e

theorem agree_of_ok {V : β → β → Prop} {x : Outcome α β} (refl : ∀ b, x = .ok b → V b b) :
    Agree V x x := by
  cases x with
  | ok b => exact .ok (refl b rfl)
  | error e => exact .error e

theorem Agree.bind {x : Outcome α β} {y : Outcome α γ} {f : β → Outcome α δ} {g : γ → Outcome α ε}
    (first : Agree V x y) (rest : ∀ b c, V b c → Agree W (f b) (g c)) :
    Agree W (x >>= f) (y >>= g) := by
  cases first with
  | ok related => exact rest _ _ related
  | error e => exact .error e

theorem Agree.mapM {xs : List ι} {f : ι → Outcome α β} {g : ι → Outcome α γ}
    (each : ∀ x ∈ xs, Agree V (f x) (g x)) :
    Agree (List.Forall₂ V) (xs.mapM f) (xs.mapM g) := by
  induction xs with
  | nil => exact .ok .nil
  | cons x xs ih =>
    rw [List.mapM_cons, List.mapM_cons]
    refine (each x List.mem_cons_self).bind fun b c head => ?_
    refine (ih fun y member => each y (List.mem_cons_of_mem x member)).bind fun bs cs tail => ?_
    exact .ok (.cons head tail)

end Outcome

namespace Attempt

variable {α σ τ β γ δ ε : Type}

inductive Agree (R : σ → τ → Prop) (V : β → γ → Prop) :
    EStateM.Result (Fault α) σ β → EStateM.Result (Fault α) τ γ → Prop
  | ok {b : β} {c : γ} {s : σ} {t : τ} (related : V b c) (after : R s t) :
    Agree R V (.ok b s) (.ok c t)
  | error {e : Fault α} {s : σ} {t : τ} (after : R s t) : Agree R V (.error e s) (.error e t)

/-- From related states two computations have results of one kind. -/
def Couples (R : σ → τ → Prop) (V : β → γ → Prop) (m : Attempt α σ β) (m' : Attempt α τ γ) : Prop :=
  ∀ s t, R s t → Agree R V (m s) (m' t)

section Agree

variable {R : σ → τ → Prop} {V : β → γ → Prop} {W : δ → ε → Prop} {m : Attempt α σ β}
  {m' : Attempt α τ γ} {s : σ} {t : τ}

theorem Agree.mono {R' : σ → τ → Prop} {V' : β → γ → Prop}
    {x : EStateM.Result (Fault α) σ β} {y : EStateM.Result (Fault α) τ γ} (agree : Agree R V x y)
    (states : ∀ s t, R s t → R' s t) (values : ∀ b c, V b c → V' b c) : Agree R' V' x y := by
  cases agree with
  | ok related after => exact .ok (values _ _ related) (states _ _ after)
  | error after => exact .error (states _ _ after)

theorem Agree.left {x : EStateM.Result (Fault α) σ β} {y : EStateM.Result (Fault α) τ γ}
    (agree : Agree R V x y) : R (left x) (left y) := by
  cases agree with
  | ok related after => exact after
  | error after => exact after

theorem Agree.ok_left {b : β} {y : EStateM.Result (Fault α) τ β} (agree : Agree R Eq (.ok b s) y) :
    ∃ t, y = .ok b t ∧ R s t := by
  cases agree with
  | ok related after =>
    subst related
    exact ⟨_, rfl, after⟩

theorem Agree.ok_right {x : EStateM.Result (Fault α) σ β} {b : β}
    (agree : Agree R Eq x (.ok b t)) : ∃ s, x = .ok b s ∧ R s t := by
  cases agree with
  | ok related after =>
    subst related
    exact ⟨_, rfl, after⟩

theorem Agree.error_right {x : EStateM.Result (Fault α) σ β} {e : Fault α}
    (agree : Agree R V x (.error e t)) : ∃ s, x = .error e s ∧ R s t := by
  cases agree with
  | error after => exact ⟨_, rfl, after⟩

theorem Agree.trans {υ : Type} {R' : τ → υ → Prop} {x : EStateM.Result (Fault α) σ β}
    {y : EStateM.Result (Fault α) τ β} {z : EStateM.Result (Fault α) υ β} (first : Agree R Eq x y)
    (second : Agree R' Eq y z) : Agree (fun s u => ∃ t, R s t ∧ R' t u) Eq x z := by
  cases first with
  | ok related after =>
    cases second with
    | ok related' after' => exact .ok (related.trans related') ⟨_, after, after'⟩
  | error after =>
    cases second with
    | error after' => exact .error ⟨_, after, after'⟩

theorem Agree.bind_into {R' : σ → τ → Prop} {f : β → Attempt α σ δ} {g : γ → Attempt α τ ε}
    (first : Agree R V (m s) (m' t)) (states : ∀ s t, R s t → R' s t)
    (rest : ∀ b c s' t', m s = .ok b s' → V b c → R s' t' → Agree R' W (f b s') (g c t')) :
    Agree R' W ((m >>= f) s) ((m' >>= g) t) := by
  change Agree R' W (EStateM.bind m f s) (EStateM.bind m' g t)
  unfold EStateM.bind
  cases given : m s with
  | ok b s' =>
    rw [given] at first
    generalize m' t = y at first
    cases first with
    | ok related after => exact rest _ _ _ _ given related after
  | error e s' =>
    rw [given] at first
    generalize m' t = y at first
    cases first with
    | error after => exact .error (states _ _ after)

theorem Agree.bind {f : β → Attempt α σ δ} {g : γ → Attempt α τ ε} (first : Agree R V (m s) (m' t))
    (rest : ∀ b c s t, V b c → R s t → Agree R W (f b s) (g c t)) :
    Agree R W ((m >>= f) s) ((m' >>= g) t) :=
  first.bind_into (fun _ _ after => after) fun b c s t _ => rest b c s t

/-- Results of one kind in related states: values if the proposition is true, faults if it is not. -/
inductive Decided (p : Prop) (R : σ → τ → Prop) :
    EStateM.Result (Fault α) σ β → EStateM.Result (Fault α) τ β → Prop
  | ok {b : β} {s : σ} {t : τ} (holds : p) (after : R s t) : Decided p R (.ok b s) (.ok b t)
  | error {e : Fault α} {s : σ} {t : τ} (fails : ¬ p) (after : R s t) :
    Decided p R (.error e s) (.error e t)

theorem Decided.agree {p : Prop} {x : EStateM.Result (Fault α) σ β}
    {y : EStateM.Result (Fault α) τ β} (decided : Decided p R x y) : Agree R Eq x y := by
  cases decided with
  | ok holds after => exact .ok rfl after
  | error fails after => exact .error after

theorem Decided.congr {p q : Prop} {x : EStateM.Result (Fault α) σ β}
    {y : EStateM.Result (Fault α) τ β} (decided : Decided p R x y) (same : p ↔ q) :
    Decided q R x y := by
  rwa [propext same] at decided

theorem Decided.bind {p q : Prop} {R' : σ → τ → Prop} {n' : Attempt α τ β} {f : β → Attempt α σ δ}
    {g : β → Attempt α τ δ} (first : Decided p R (m s) (n' t))
    (skip : ¬ p → ¬ q ∧ ∀ s t, R s t → R' s t)
    (rest : p → ∀ b s t, R s t → Decided q R' (f b s) (g b t)) :
    Decided q R' ((m >>= f) s) ((n' >>= g) t) := by
  generalize given : m s = x, given' : n' t = y at first
  cases first with
  | ok holds after =>
    rw [bind_of_ok given, bind_of_ok given']
    exact rest holds _ _ _ after
  | error fails after =>
    rw [bind_of_error given, bind_of_error given']
    exact .error (skip fails).1 ((skip fails).2 _ _ after)

section Focus

variable {σ' τ' : Type} {R' : σ' → τ' → Prop} {part : σ → σ'} {put : σ' → σ → σ}
  {n : Attempt α σ' β}

theorem Agree.focus_left {R' : σ' → τ → Prop} {y : EStateM.Result (Fault α) τ γ}
    (agree : Agree R' V (n (part s)) y) (puts : ∀ u v, R' u v → R (put u s) v) :
    Agree R V (focus part put n s) y := by
  unfold focus
  generalize n (part s) = x at agree
  cases agree with
  | ok related after => exact .ok related (puts _ _ after)
  | error after => exact .error (puts _ _ after)

theorem Agree.focus {part' : τ → τ'} {put' : τ' → τ → τ} {n' : Attempt α τ' γ}
    (agree : Agree R' V (n (part s)) (n' (part' t)))
    (puts : ∀ u v, R' u v → R (put u s) (put' v t)) :
    Agree R V (Attempt.focus part put n s) (Attempt.focus part' put' n' t) := by
  unfold Attempt.focus
  generalize n (part s) = x, n' (part' t) = y at agree
  cases agree with
  | ok related after => exact .ok related (puts _ _ after)
  | error after => exact .error (puts _ _ after)

end Focus

end Agree

variable {R : σ → τ → Prop} {V : β → γ → Prop} {W : δ → ε → Prop} {m : Attempt α σ β}
  {m' : Attempt α τ γ}

theorem couples_pure {b : β} {c : γ} (related : V b c) :
    Couples R V (pure b : Attempt α σ β) (pure c : Attempt α τ γ) := fun _ _ before =>
  .ok related before

theorem couples_throw (e : Fault α) :
    Couples R V (throw e : Attempt α σ β) (throw e : Attempt α τ γ) := fun _ _ before =>
  .error before

theorem couples_liftM (x : Outcome α β) :
    Couples R (fun b c => b = c ∧ x = .ok b) (liftM x : Attempt α σ β)
      (liftM x : Attempt α τ β) := by
  intro s t before
  cases x with
  | ok b => exact .ok ⟨rfl, rfl⟩ before
  | error e => exact .error before

theorem couples_same (m : Attempt α σ β) : Couples Eq Eq m m := by
  rintro s _ rfl
  cases m s with
  | ok b t => exact .ok rfl rfl
  | error e t => exact .error rfl

theorem Couples.mono {V' : β → γ → Prop} (couples : Couples R V m m')
    (values : ∀ b c, V b c → V' b c) : Couples R V' m m' := fun s t before =>
  (couples s t before).mono (fun _ _ after => after) values

theorem couples_lift {x : Outcome α β} {y : Outcome α γ} (agree : Outcome.Agree V x y) :
    Couples R V (liftM x : Attempt α σ β) (liftM y : Attempt α τ γ) := by
  intro s t before
  cases agree with
  | ok related => exact .ok related before
  | error e => exact .error before

theorem couples_outcome (x : Outcome α β) :
    Couples R Eq (liftM x : Attempt α σ β) (liftM x : Attempt α τ β) :=
  (couples_liftM x).mono fun _ _ both => both.1

theorem Couples.ok_left {n : Attempt α σ β} {n' : Attempt α τ β} (couples : Couples R Eq n n')
    {s s' : σ} {t : τ} {b : β} (before : R s t) (done : n s = .ok b s') :
    ∃ t', n' t = .ok b t' ∧ R s' t' := by
  have agree := couples s t before
  rw [done] at agree
  exact agree.ok_left

theorem Couples.ite {p : Prop} [Decidable p] {n : Attempt α σ β} {n' : Attempt α τ γ}
    (yes : p → Couples R V m m') (no : ¬ p → Couples R V n n') :
    Couples R V (if p then m else n) (if p then m' else n') := by
  by_cases holds : p
  · rw [if_pos holds, if_pos holds]
    exact yes holds
  · rw [if_neg holds, if_neg holds]
    exact no holds

theorem Couples.bind {f : β → Attempt α σ δ} {g : γ → Attempt α τ ε} (first : Couples R V m m')
    (rest : ∀ b c, V b c → Couples R W (f b) (g c)) : Couples R W (m >>= f) (m' >>= g) :=
  fun s t before => (first s t before).bind fun b c s t related after =>
    rest b c related s t after

theorem Couples.bind_eq {n : Attempt α σ β} {n' : Attempt α τ β} {f : β → Attempt α σ δ}
    {g : β → Attempt α τ ε} (first : Couples R Eq n n') (rest : ∀ b, Couples R W (f b) (g b)) :
    Couples R W (n >>= f) (n' >>= g) := by
  refine first.bind ?_
  rintro b _ rfl
  exact rest b

theorem Couples.lift_bind {x : Outcome α β} {f : β → Attempt α σ δ} {g : β → Attempt α τ ε}
    (rest : ∀ b, x = .ok b → Couples R W (f b) (g b)) :
    Couples R W (liftM x >>= f) (liftM x >>= g) := by
  refine (couples_liftM x).bind ?_
  rintro b _ ⟨rfl, given⟩
  exact rest b given

theorem Couples.bind_pre {R' : σ → τ → Prop} {f : β → Attempt α σ δ} {g : γ → Attempt α τ ε}
    (first : Couples R V m m') (states : ∀ s t, R s t → R' s t)
    (rest : ∀ b c, V b c → ∀ s t, R s t → Agree R' W (f b s) (g c t)) :
    ∀ s t, R s t → Agree R' W ((m >>= f) s) ((m' >>= g) t) := fun s t before =>
  (first s t before).bind_into states fun b c s t _ related => rest b c related s t

theorem Couples.and_left {P : β → Prop} (couples : Couples R V m m')
    (holds : ∀ s b t, m s = .ok b t → P b) : Couples R (fun b c => V b c ∧ P b) m m' := by
  intro s t before
  have agree := couples s t before
  -- Only the given result of the left side is known to have the property.
  cases given : m s with
  | ok b u =>
    rw [given] at agree
    generalize m' t = y at agree
    cases agree with
    | ok related after => exact .ok ⟨related, holds s b u given⟩ after
  | error e u =>
    rw [given] at agree
    generalize m' t = y at agree
    cases agree with
    | error after => exact .error after

theorem keeps_iff_couples {I : σ → Prop} :
    Keeps I m ↔ Couples (fun s t => s = t ∧ I s) Eq m m := by
  -- On equal states a computation agrees with itself, so that only the property is left to say.
  constructor
  · rintro keeps s _ ⟨rfl, before⟩
    cases given : m s with
    | ok b u => exact .ok rfl ⟨rfl, keeps.of_ok before given⟩
    | error e u => exact .error ⟨rfl, keeps.of_error before given⟩
  · intro couples s before
    have agree := couples s s ⟨rfl, before⟩
    generalize m s = x at agree
    cases agree with
    | ok _ after => exact after.2
    | error after => exact after.2

end Attempt

open Attempt

def Trail.SameTally {α : Type} (s t : Trail α) : Prop := s.tally = t.tally

def Attempt.IgnoresEvents {α β : Type} (m : Attempt α (Trail α) β) : Prop :=
  Couples Trail.SameTally Eq m m

namespace Stage

variable {α S T S' T' β γ : Type} {Q : S → T → Prop} {P : S' → T' → Prop} {V : β → γ → Prop}

structure Joined (H : Trail α → Trail α → Prop) (Q : S → T → Prop) (s : Stage α S)
    (t : Stage α T) : Prop where
  trail : H s.trail t.trail
  state : Q s.state t.state

structure Alike (Q : S → T → Prop) (s : Stage α S) (t : Stage α T) : Prop where
  tally : s.trail.tally = t.trail.tally
  state : Q s.state t.state

variable (Q) in
theorem alike_eq : Alike (α := α) Q = Joined Trail.SameTally Q := by
  ext s t
  constructor
  · exact fun alike => ⟨alike.tally, alike.state⟩
  · exact fun joined => ⟨joined.trail, joined.state⟩

theorem joined_eq : Joined (α := α) Eq (Eq : S → S → Prop) = Eq := by
  ext s t
  constructor
  · rintro ⟨trail, state⟩
    cases s
    cases t
    exact congrArg₂ Stage.mk trail state
  · rintro rfl
    exact ⟨rfl, rfl⟩

section Joined

variable {H : Trail α → Trail α → Prop}

theorem joined_getState :
    Couples (Joined H Q) Q (getState : Attempt α (Stage α S) S)
      (getState : Attempt α (Stage α T) T) := fun _ _ before => .ok before.state before

theorem joined_modifyState {f : S → S} {g : T → T} (keeps : ∀ x y, Q x y → Q (f x) (g y)) :
    Couples (Joined H Q) Eq (modifyState f : Attempt α (Stage α S) Unit)
      (modifyState g : Attempt α (Stage α T) Unit) := fun _ _ before =>
  .ok rfl ⟨before.trail, keeps _ _ before.state⟩

theorem joined_onTrail {m : Attempt α (Trail α) β} {m' : Attempt α (Trail α) γ}
    (couples : Couples H V m m') :
    Couples (Joined H Q) V (onTrail m : Attempt α (Stage α S) β)
      (onTrail m' : Attempt α (Stage α T) γ) := fun s t before =>
  (couples s.trail t.trail before.trail).focus fun _ _ after => ⟨after, before.state⟩

theorem joined_within {part : S → S'} {part' : T → T'} {put : S' → S → S} {put' : T' → T → T}
    {m : Attempt α (Stage α S') β} {m' : Attempt α (Stage α T') γ}
    (couples : Couples (Joined H P) V m m') (parts : ∀ x y, Q x y → P (part x) (part' y))
    (puts : ∀ u v x y, P u v → Q x y → Q (put u x) (put' v y)) :
    Couples (Joined H Q) V (within part put m) (within part' put' m') := by
  intro s t before
  refine Agree.focus ?_ fun u v (after : Joined H P u v) =>
    ⟨after.trail, puts _ _ _ _ after.state before.state⟩
  exact couples _ _ ⟨before.trail, parts _ _ before.state⟩

end Joined

theorem couples_getState :
    Couples (Alike Q) Q (getState : Attempt α (Stage α S) S)
      (getState : Attempt α (Stage α T) T) := by
  rw [alike_eq]
  exact joined_getState

theorem couples_modifyState {f : S → S} {g : T → T} (keeps : ∀ x y, Q x y → Q (f x) (g y)) :
    Couples (Alike Q) Eq (modifyState f : Attempt α (Stage α S) Unit)
      (modifyState g : Attempt α (Stage α T) Unit) := by
  rw [alike_eq]
  exact joined_modifyState keeps

theorem couples_emit (event event' : Event α) :
    Couples (Alike Q) Eq (emit event : Attempt α (Stage α S) Unit)
      (emit event' : Attempt α (Stage α T) Unit) := fun _ _ before =>
  .ok rfl ⟨before.tally, before.state⟩

theorem couples_onTrail {m : Attempt α (Trail α) β} {m' : Attempt α (Trail α) γ}
    (couples : Couples Trail.SameTally V m m') :
    Couples (Alike Q) V (onTrail m : Attempt α (Stage α S) β)
      (onTrail m' : Attempt α (Stage α T) γ) := by
  rw [alike_eq]
  exact joined_onTrail couples

theorem agree_onTrail {τ : Type} {m : Attempt α (Trail α) β} {s : Stage α S}
    {y : EStateM.Result (Fault α) τ γ} {R : Stage α S → τ → Prop} {R' : Trail α → τ → Prop}
    (agree : Agree R' V (m s.trail) y) (puts : ∀ t u, R' t u → R { s with trail := t } u) :
    Agree R V (onTrail m s) y := by
  refine Agree.focus_left ?_ puts
  exact agree

theorem agree_within {τ : Type} {part : S → S'} {put : S' → S → S} {m : Attempt α (Stage α S') β}
    {s : Stage α S} {y : EStateM.Result (Fault α) τ γ} {R : Stage α S → τ → Prop}
    {R' : Stage α S' → τ → Prop} (agree : Agree R' V (m ⟨s.trail, part s.state⟩) y)
    (puts : ∀ t u, R' t u → R ⟨t.trail, put t.state s.state⟩ u) :
    Agree R V (within part put m s) y := by
  refine Agree.focus_left ?_ puts
  exact agree

theorem joined_runFrom {H : Trail α → Trail α → Prop} {m : Attempt α (Stage α S) β}
    {m' : Attempt α (Stage α T) γ} {x : S} {y : T} {s t : Trail α}
    (agree : Agree (Joined H Q) V (m ⟨s, x⟩) (m' ⟨t, y⟩)) :
    Agree H (fun b c => V b.1 c.1 ∧ Q b.2 c.2) (runFrom x m s) (runFrom y m' t) := by
  unfold runFrom
  generalize m ⟨s, x⟩ = given, m' ⟨t, y⟩ = given' at agree
  cases agree with
  | ok related after => exact .ok ⟨related, after.state⟩ after.trail
  | error after => exact .error after.trail

theorem agree_runFrom {m : Attempt α (Stage α S) β} {m' : Attempt α (Stage α T) γ} {x : S} {y : T}
    {s t : Trail α} (agree : Agree (Alike Q) V (m ⟨s, x⟩) (m' ⟨t, y⟩)) :
    Agree Trail.SameTally (fun b c => V b.1 c.1 ∧ Q b.2 c.2) (runFrom x m s) (runFrom y m' t) := by
  rw [alike_eq] at agree
  exact joined_runFrom agree

end Stage

end ManifoldOpt
