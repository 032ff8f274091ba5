import ManifoldOpt.Session.Plane
import ManifoldOpt.Solver.Run
import ManifoldOpt.Stepsize

set_option autoImplicit false

namespace ManifoldOpt

inductive StepLength
  | real (x : Float)
  | plane (z : PlaneNumber)

namespace StepLength

def shown : StepLength → Shown
  | real x => .number x
  | plane z => .text z.text

def neg : StepLength → StepLength
  | real x => real (-x)
  | plane z => plane z.neg

def ofDecreasing? (length factor subtrahend exponent : Float) (shift k : Number Float) :
    Outcome Float (Option PlaneNumber) := do
  let top ← StepRule.decayed length factor subtrahend k
  let shifted ← k.add shift
  let base ← shifted.toScalar
  if base < 0 && Scalar.isFinite exponent && exponent.floor != exponent then
    return some (← PlaneNumber.quotient ⟨top, 0⟩ (← PlaneNumber.power base exponent))
  else return none

end StepLength

def StepRule.givenLength (norm : Outcome Float Float) (k : Number Float) :
    StepRule Float → Outcome Float StepLength
  | decreasing length factor subtrahend exponent shift kind => do
    match ← StepLength.ofDecreasing? length factor subtrahend exponent shift k, kind with
    | some z, .relative => return .plane z
    | some z, .absolute => return .plane (← z.normalize (← norm))
    | none, kind =>
      let rule := decreasing length factor subtrahend exponent shift kind
      return .real (← rule.lengthFor norm k)
  | other => do
    return .real (← other.lengthFor norm k)

/-- What is shown of a step length for a count as a caller gives it. `counted` computes the length
where there is no rule; only a decreasing rule makes use of the count. -/
def Stepsize.shownLength {S : Type} (M : Manifold Float) (p v : Tensor Float)
    (count : Literal Float) (counted : Int → Running Float S Float) (s : Stepsize Float) :
    Running Float S Shown :=
  match s, count.number? with
  | rule (.decreasing ..), none => throw .notNumber
  | rule r, n => do
    return (← r.givenLength (M.normNumber p v) (n.getD (.int 0))).shown
  | _, n => do
    return .number (← counted ((n.bind Number.int?).getD 0))

end ManifoldOpt
