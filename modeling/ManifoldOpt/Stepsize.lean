import ManifoldOpt.Manifold.Basic
import ManifoldOpt.Parameter

/-!
Step lengths. A rule gives the length of a step from the iteration count: a constant, or one that
decreases linearly, geometrically and harmonically. Absolute lengths are divided by the norm of the
direction, so that the step as a whole has the length of the rule. A damped stepsize searches the
length instead; its parameters are checked here. Arithmetic on parameters fails where it leaves the
numbers.
-/

set_option autoImplicit false

namespace ManifoldOpt

variable {α : Type} [Scalar α]

inductive StepKind
  | relative
  | absolute
  deriving DecidableEq, Repr

def StepKind.name : StepKind → String
  | relative => "relative"
  | absolute => "absolute"

inductive StepRule (α : Type)
  | base
  | constant (length : α) (kind : StepKind)
  | decreasing (length factor subtrahend exponent : α) (shift : Number α) (kind : StepKind)

structure Damping (α : Type) where
  desired : α
  accepted : α
  trials : Number α
  least : α

inductive Stepsize (α : Type)
  | rule (r : StepRule α)
  | damped (d : Damping α)
  | inert (v : Literal α)

abbrev Arguments (α : Type) := List (String × Literal α)

namespace Arguments

def get (arguments : Arguments α) (name : String) (default : Literal α) : Literal α :=
  (arguments.lookup name).getD default

def expect (arguments : Arguments α) (names : List String) : Outcome α Unit :=
  if arguments.all fun entry => names.contains entry.1 then .ok () else .error .argumentCount

end Arguments

namespace StepKind

def ofLiteral (given : Literal α) : Outcome α StepKind :=
  match given with
  | .string "relative" => .ok relative
  | .string "absolute" => .ok absolute
  | other => .error (.configuration "type" other .stepKind)

end StepKind

def checkNonNegative (name : String) (given : Literal α) : Outcome α (Number α) := do
  let n ← given.compared
  if n.lt (.int 0) then throw (.configuration name given .nonNegative)
  return n

def checkPositive (name : String) (given : Literal α) : Outcome α (Number α) := do
  let n ← given.compared
  if n.le (.int 0) then throw (.configuration name given .positive)
  return n

namespace Stepsize

def constant (arguments : Arguments α) : Outcome α (Stepsize α) := do
  arguments.expect ["length", "type"]
  let length ← checkNonNegative "length" (arguments.get "length" (.real 1))
  let kind ← StepKind.ofLiteral (arguments.get "type" (.string "relative"))
  return .rule (.constant (← length.toScalar) kind)

def decreasing (arguments : Arguments α) : Outcome α (Stepsize α) := do
  arguments.expect ["length", "factor", "subtrahend", "exponent", "shift", "type"]
  let length ← checkNonNegative "length" (arguments.get "length" (.real 1))
  let factor ← checkPositive "factor" (arguments.get "factor" (.real 1))
  let shift ← checkNonNegative "shift" (arguments.get "shift" (.int 0))
  let kind ← StepKind.ofLiteral (arguments.get "type" (.string "relative"))
  return .rule (.decreasing (← length.toScalar) (← factor.toScalar)
    (← (arguments.get "subtrahend" (.real 0)).toScalar)
    (← (arguments.get "exponent" (.real 1)).toScalar) shift kind)

def defaultAcceptance (desired : Literal α) : Outcome α (Literal α) := do
  let n ← desired.compared
  return .real (Default.acceptanceFactor * (← n.toScalar))

def affine (arguments : Arguments α) : Outcome α (Stepsize α) := do
  arguments.expect ["theta_des", "theta_acc", "max_trials", "min_alpha"]
  let givenDesired := arguments.get "theta_des" (.real Default.desiredContraction)
  let givenAccepted ← match arguments.get "theta_acc" .none with
    | .none => defaultAcceptance givenDesired
    | given => pure given
  let givenTrials := arguments.get "max_trials" (.int Default.dampingTrials)
  let givenLeast := arguments.get "min_alpha" (.real Default.leastDamping)
  let desired ← checkPositive "theta_des" givenDesired
  let accepted ← givenAccepted.compared
  if accepted.lt desired then
    throw (.configuration "theta_acc" givenAccepted (.atLeastDesired desired))
  let trials ← givenTrials.compared
  if trials.lt (.int 1) then throw (.configuration "max_trials" givenTrials .atLeastOne)
  let least ← checkPositive "min_alpha" givenLeast
  return .damped ⟨← desired.toScalar, ← accepted.toScalar, trials, ← least.toScalar⟩

def unit : Stepsize α := .rule (.constant 1 .relative)

def defaultDamping : Damping α where
  desired := Default.desiredContraction
  accepted := Default.acceptanceFactor * Default.desiredContraction
  trials := .int Default.dampingTrials
  least := Default.leastDamping

def first : Stepsize α → α
  | rule (.constant length _) => length
  | rule (.decreasing length _ _ _ _ _) => length
  | _ => 1

end Stepsize

def checkedPower (base exponent : α) : Outcome α α :=
  let value := Scalar.pow base exponent
  if Scalar.isZero base && decide (exponent < 0) && Scalar.isFinite exponent then
    .error .divisionByZero
  else if Scalar.isInfinite value && Scalar.isFinite base && Scalar.isFinite exponent then
    .error .overflow
  else .ok value

def checkedQuotient (a b : α) : Outcome α α :=
  if Scalar.isZero b then .error .divisionByZero else .ok (a / b)

namespace StepRule

def decayed (length factor subtrahend : α) (k : Number α) : Outcome α α := do
  let count ← k.toScalar
  let decay ← checkedPower factor count
  return (length - count * subtrahend) * decay

def decreasingLength (length factor subtrahend exponent : α) (shift k : Number α) :
    Outcome α α := do
  let top ← decayed length factor subtrahend k
  let shifted ← k.add shift
  let harmonic ← checkedPower (← shifted.toScalar) exponent
  checkedQuotient top harmonic

def normalize (length norm : α) : α :=
  if Tolerance.machine < norm then length / norm else length

/-- The length of step `k` along a direction with the given norm, or without a norm for the given
reason. -/
def lengthFor (norm : Outcome α α) (k : Number α) : StepRule α → Outcome α α
  | base => .error (.unimplemented .stepsizeRule)
  | constant length .relative => .ok length
  | constant length .absolute => do
    return normalize length (← norm)
  | decreasing length factor subtrahend exponent shift .relative =>
    decreasingLength length factor subtrahend exponent shift k
  | decreasing length factor subtrahend exponent shift .absolute => do
    let step ← decreasingLength length factor subtrahend exponent shift k
    return normalize step (← norm)

def lengthAt (M : Manifold α) (p v : Tensor α) (k : Number α) (r : StepRule α) : Outcome α α :=
  r.lengthFor (M.normNumber p v) k

end StepRule

end ManifoldOpt
