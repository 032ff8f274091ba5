import ManifoldOpt.Proofs.Coupling

set_option autoImplicit false

namespace ManifoldOpt

namespace Attempt

variable {α σ τ β γ δ ε : Type} {E R : σ → τ → Prop} {e : Fault α} {V : β → γ → Prop}
  {W : δ → ε → Prop}

/-- Results of one kind, unless the first computation breaks off with the fault `e`, which leaves the
states apart. -/
inductive AgreeUnless (E : σ → τ → Prop) (e : Fault α) (R : σ → τ → Prop) (V : β → γ → Prop) :
    EStateM.Result (Fault α) σ β → EStateM.Result (Fault α) τ γ → Prop
  | agree {x : EStateM.Result (Fault α) σ β} {y : EStateM.Result (Fault α) τ γ}
    (agree : Agree R V x y) : AgreeUnless E e R V x y
  | broken {s : σ} {y : EStateM.Result (Fault α) τ γ} (apart : E s (left y)) :
    AgreeUnless E e R V (.error e s) y

def CouplesUnless (E : σ → τ → Prop) (e : Fault α) (R : σ → τ → Prop) (V : β → γ → Prop)
    (m : Attempt α σ β) (m' : Attempt α τ γ) : Prop :=
  ∀ s t, R s t → AgreeUnless E e R V (m s) (m' t)

variable {m : Attempt α σ β} {m' : Attempt α τ γ} {f : β → Attempt α σ δ} {g : γ → Attempt α τ ε}

theorem Couples.unless (couples : Couples R V m m') : CouplesUnless E e R V m m' :=
  fun s t before => .agree (couples s t before)

theorem CouplesUnless.bind (first : CouplesUnless E e R V m m')
    (kept : ∀ c s, Keeps (E s) (g c))
    (rest : ∀ b c, V b c → CouplesUnless E e R W (f b) (g c)) :
    CouplesUnless E e R W (m >>= f) (m' >>= g) := by
  intro s t before
  have result := first s t before
  generalize given : m s = x, given' : m' t = y at result
  cases result with
  | agree agree =>
    cases agree with
    | ok related after =>
      rw [bind_of_ok given, bind_of_ok given']
      exact rest _ _ related _ _ after
    | error after =>
      rw [bind_of_error given, bind_of_error given']
      exact .agree (.error after)
  | @broken s' _ apart =>
    rw [bind_of_error given]
    refine .broken ?_
    cases y with
    | ok c u =>
      rw [bind_of_ok given']
      exact (kept c s').left apart
    | error e' u =>
      rw [bind_of_error given']
      exact apart

theorem Couples.bind_unless (first : Couples R V m m')
    (rest : ∀ b c, V b c → CouplesUnless E e R W (f b) (g c)) :
    CouplesUnless E e R W (m >>= f) (m' >>= g) := by
  intro s t before
  have agree := first s t before
  generalize given : m s = x, given' : m' t = y at agree
  cases agree with
  | ok related after =>
    rw [bind_of_ok given, bind_of_ok given']
    exact rest _ _ related _ _ after
  | error after =>
    rw [bind_of_error given, bind_of_error given']
    exact .agree (.error after)

theorem CouplesUnless.lift_bind {x : Outcome α β} {f : β → Attempt α σ δ} {g : β → Attempt α τ ε}
    (rest : ∀ b, CouplesUnless E e R W (f b) (g b)) :
    CouplesUnless E e R W (liftM x >>= f) (liftM x >>= g) := by
  refine (couples_liftM x).bind_unless ?_
  rintro b _ ⟨rfl, -⟩
  exact rest b

theorem CouplesUnless.bind_couples (first : CouplesUnless E e R V m m')
    (kept : ∀ c s, Keeps (E s) (g c)) (rest : ∀ b c, V b c → Couples R W (f b) (g c)) :
    CouplesUnless E e R W (m >>= f) (m' >>= g) :=
  first.bind kept fun b c related => (rest b c related).unless

end Attempt

open Attempt

namespace Stage

variable {α S T β γ : Type} {E H : Trail α → Trail α → Prop} {e : Fault α} {Q : S → T → Prop}
  {V : β → γ → Prop}

theorem left_onTrail (m : Attempt α (Trail α) β) (s : Stage α S) :
    (left (onTrail m s)).trail = left (m s.trail) := by
  unfold onTrail focus
  cases m s.trail with
  | ok b t => rfl
  | error e t => rfl

theorem onTrail_unless {m : Attempt α (Trail α) β} {m' : Attempt α (Trail α) γ}
    (couples : CouplesUnless E e H V m m') :
    CouplesUnless (fun s t => E s.trail t.trail) e (Joined H Q) V
      (onTrail m : Attempt α (Stage α S) β) (onTrail m' : Attempt α (Stage α T) γ) := by
  intro s t before
  have result := couples s.trail t.trail before.trail
  unfold onTrail focus
  generalize m s.trail = x, m' t.trail = y at result
  cases result with
  | agree agree =>
    refine .agree ?_
    cases agree with
    | ok related after => exact .ok related ⟨after, before.state⟩
    | error after => exact .error ⟨after, before.state⟩
  | broken apart =>
    refine .broken ?_
    cases y with
    | ok c u => exact apart
    | error e' u => exact apart

end Stage

def Trail.Both {α : Type} (I : Trail α → Prop) (s t : Trail α) : Prop := s = t ∧ I s

namespace Stage

variable {α S β : Type} {I : Trail α → Prop}

theorem joined_both_eq :
    Joined (Trail.Both I) (Eq : S → S → Prop) = fun s t => s = t ∧ I s.trail := by
  ext s t
  constructor
  · rintro ⟨⟨trail, holds⟩, state⟩
    cases s
    cases t
    exact ⟨congrArg₂ Stage.mk trail state, holds⟩
  · rintro ⟨rfl, holds⟩
    exact ⟨⟨rfl, holds⟩, rfl⟩

theorem keeps_trail_iff {m : Attempt α (Stage α S) β} :
    Keeps (fun s => I s.trail) m ↔ Couples (Joined (Trail.Both I) Eq) Eq m m := by
  rw [joined_both_eq]
  exact keeps_iff_couples

end Stage

/-- How computations part: what holds of the trail as long as they agree, the fault with which the
first one breaks off, and what then holds of the two trails. Events do not matter for this. -/
structure Parting (α : Type) where
  going : Trail α → Prop
  apart : Trail α → Trail α → Prop
  fault : Fault α
  going_emit : ∀ event, Keeps going (Trail.emit event)
  apart_emit : ∀ s event, Keeps (apart s) (Trail.emit event)

namespace Parting

variable {α S T β γ δ : Type}

def Splits (parting : Parting α) (V : β → γ → Prop) (m : Attempt α (Trail α) β)
    (m' : Attempt α (Trail α) γ) : Prop :=
  CouplesUnless parting.apart parting.fault (Trail.Both parting.going) V m m'

def ApartAt (parting : Parting α) (s : Stage α S) (t : Stage α T) : Prop :=
  parting.apart s.trail t.trail

variable {parting : Parting α} {m m' : Attempt α (Trail α) β} {f : β → Attempt α (Trail α) γ}

theorem splits_same (keeps : Keeps parting.going m) : parting.Splits Eq m m :=
  (keeps_iff_couples.mp keeps).unless

theorem Splits.bind_eq (first : parting.Splits Eq m m')
    (apart : ∀ c s, Keeps (parting.apart s) (f c)) (going : ∀ c, Keeps parting.going (f c)) :
    parting.Splits Eq (m >>= f) (m' >>= f) := by
  refine first.bind apart ?_
  rintro b _ rfl
  exact splits_same (going b)

theorem Splits.bind_silent (first : parting.Splits Eq m m')
    (silent : ∀ c (I : Trail α → Prop), Keeps I (f c)) :
    parting.Splits Eq (m >>= f) (m' >>= f) :=
  first.bind_eq (fun c s => silent c (parting.apart s)) fun c => silent c parting.going

theorem bind_splits {g : β → Attempt α (Trail α) γ} (keeps : Keeps parting.going m)
    (rest : ∀ b, parting.Splits Eq (f b) (g b)) : parting.Splits Eq (m >>= f) (m >>= g) := by
  refine (keeps_iff_couples.mp keeps).bind_unless ?_
  rintro b _ rfl
  exact rest b

end Parting

end ManifoldOpt
