import ManifoldOpt.Fault
import ManifoldOpt.Manifold.Basic

/-!
What happens besides the values a computation returns. A trail keeps the events a run reports,
newest first, and how often each counted function of the caller has been called. An attempt is a
computation that may fail; what it changed before failing stays changed.
-/

set_option autoImplicit false

namespace ManifoldOpt

inductive Level
  | debug
  | info
  | warning
  | error
  | critical
  | numbered (n : Int)
  deriving DecidableEq, Repr

namespace Level

def number : Level → Int
  | debug => 10
  | info => 20
  | warning => 30
  | error => 40
  | critical => 50
  | numbered n => n

def ofNumber (n : Int) : Level :=
  ([debug, info, warning, error, critical].find? (·.number = n)).getD (numbered n)

end Level

inductive CriterionKind
  | base
  | afterIteration
  | changeLess
  | subgradientNormLess
  | any
  | all
  deriving DecidableEq, Repr

inductive Cause (α : Type)
  | budget (limit : Number α)
  | change (iteration : Int) (size : α) (tolerance : Number α)
  | subgradientNorm (size : α) (tolerance : Number α)
  | blank

inductive Event (α : Type)
  | fired (criterion : CriterionKind) (iteration : Int)
  | completed (solver : String) (iteration : Int) (stepsize : Option α)
  | stopped (solver : String) (level : Level) (iteration : Int) (reason : List (Cause α))
  | subgradientFinished (cost : Option α)
  | directionVanishes (iteration : Int)
  | dampingGivenUp (iteration : Int) (trials : Nat) (theta : α)
  | dampingAccepted (iteration : Int) (alpha theta : α) (trials : Nat)
  | damped (iteration : Int) (stepsize theta : α)
  /-- A step whose length has a part beside the real line. -/
  | dampedAside (iteration : Int) (real aside theta : α)
  | residual (iteration : Int) (norm : α)

structure Trail (α : Type) where
  events : List (Event α) := []
  tally : List Nat := []

abbrev Attempt (α σ : Type) := EStateM (Fault α) σ

namespace Attempt

variable {α σ τ β : Type}

def ofOutcome (x : Outcome α β) : Attempt α σ β := fun s =>
  match x with
  | .ok b => .ok b s
  | .error e => .error e s

instance liftOutcome : MonadLift (Except (Fault α)) (EStateM (Fault α) σ) := ⟨ofOutcome⟩

def focus (part : σ → τ) (put : τ → σ → σ) (m : Attempt α τ β) : Attempt α σ β := fun s =>
  match m (part s) with
  | .ok b t => .ok b (put t s)
  | .error e t => .error e (put t s)

end Attempt

structure Stage (α S : Type) where
  trail : Trail α
  state : S

variable {α S T β : Type}

def Trail.emit (event : Event α) : Attempt α (Trail α) Unit :=
  modify fun t => { t with events := event :: t.events }

def Trail.count (index : Nat) : Attempt α (Trail α) Nat := do
  let t ← get
  let calls := t.tally.getD index 0 + 1
  let missing := index + 1 - t.tally.length
  set { t with tally := (t.tally ++ List.replicate missing 0).set index calls }
  return calls

namespace Stage

def onTrail (m : Attempt α (Trail α) β) : Attempt α (Stage α S) β :=
  Attempt.focus Stage.trail (fun t s => { s with trail := t }) m

def emit (event : Event α) : Attempt α (Stage α S) Unit := onTrail (Trail.emit event)

def getState : Attempt α (Stage α S) S := do
  return (← get).state

def modifyState (f : S → S) : Attempt α (Stage α S) Unit :=
  modify fun s => { s with state := f s.state }

def within (part : S → T) (put : T → S → S) (m : Attempt α (Stage α T) β) :
    Attempt α (Stage α S) β :=
  Attempt.focus (fun s => ⟨s.trail, part s.state⟩)
    (fun t s => ⟨t.trail, put t.state s.state⟩) m

def runFrom (state : S) (m : Attempt α (Stage α S) β) : Attempt α (Trail α) (β × S) := fun trail =>
  match m ⟨trail, state⟩ with
  | .ok b s => .ok (b, s.state) s.trail
  | .error e s => .error e s.trail

end Stage

variable [Scalar α]

/-- What stopping criteria and recorders see of a problem and of the state that is being solved for
it. Parts that a problem or a state does not have fail when they are asked for. -/
structure View (α : Type) [Scalar α] where
  manifold : Outcome α (Manifold α)
  iterate : Outcome α (Option (Tensor α))
  direction : Outcome α (Option (Tensor α))
  subgradient : Outcome α (Tensor α × Tensor α) := .error .noAttribute
  cost : Option (Tensor α → Attempt α (Trail α) α) := none

def View.point (view : View α) : Outcome α (Tensor α) := do
  match ← view.iterate with
  | some p => return p
  | none => throw .missingArray

/-- What an operation gives for arrays that are missing: its own fault if it is not provided at
all, as even single numbers show. -/
def withoutArrays (operation : Tensor α → Tensor α → Outcome α α) : Outcome α α := do
  let _ ← operation (.scalar 0) (.scalar 0)
  throw .notNumber

def distBetween (M : Manifold α) : Option (Tensor α) → Option (Tensor α) → Outcome α α
  | some p, some q => M.distNumber p q
  | _, _ => withoutArrays M.distNumber

def normAt (M : Manifold α) : Option (Tensor α) → Option (Tensor α) → Outcome α α
  | some p, some v => M.normNumber p v
  | _, _ => withoutArrays M.normNumber

end ManifoldOpt
