import ManifoldOpt.Newton.System
import ManifoldOpt.Problem.Gallery
import ManifoldOpt.Session.Plane

set_option autoImplicit false

namespace ManifoldOpt

namespace Rule

def usesSpace : Rule Float → Bool
  | dist _ => true
  | field _ => true
  | rayleigh _ => true
  | _ => false

def planeCost (p : PlaneArray) : Rule Float → Outcome Float Float
  | absolute weights target => do
    let sizes ← (← p.sub (.ofReal target)).sizes
    return (← weights.mul sizes).total
  | largest target => do
    let sizes ← (← p.sub (.ofReal target)).sizes
    (← top sizes).number
  | dist (some target) => do
    (← p.sub (.ofReal target)).length
  | constant value => value.number
  | _ => .error .notNumber

def planeAwayFrom (target : Tensor Float) (p : PlaneArray) : Outcome Float PlaneArray := do
  let v ← p.sub (.ofReal target)
  let distance ← v.length
  if 1e-12 < distance then v.scale (1 / distance) else return p.zerosLike

def planeSignOfLargest (target : Tensor Float) (p : PlaneArray) : Outcome Float PlaneArray := do
  let r ← p.sub (.ofReal target)
  let (i, _) := argmax (← r.sizes).entries
  let keep (x : Tensor Float) : Outcome Float (Tensor Float) :=
    (Tensor.tabulate [x.entries.length] fun j =>
      if j = i then x.entries.getD j 0 else 0).reshape p.re.shape
  (← r.signs).eachPart keep

def planeField (p : PlaneArray) : Rule Float → Outcome Float MixedArray
  | dist (some target) => do
    return .plane (← planeAwayFrom target p)
  | absolute weights target => do
    let signs ← (← p.sub (.ofReal target)).signs
    return .plane (← (PlaneArray.ofReal weights).mul signs)
  | largest target => do
    return .plane (← planeSignOfLargest target p)
  | squared target => do
    return .plane (← (← p.sub (.ofReal target)).scale 2)
  | linear a => .ok (.real a)
  | constant value => .ok (.real value)
  | field (some a) => .ok (.real a)
  | scaled c target => do
    let r ← p.sub (.ofReal (target.getD (.scalar 0)))
    return .plane (← r.scale (← c))
  | affine a b => do
    let image ← p.eachPart fun x => a.apply x.ravel
    let value ← image.sub (.ofReal b)
    return .plane (← value.eachPart fun x => .ok ((x.reshape? p.re.shape).getD x))
  | rayleigh a => do
    return .plane (← p.eachPart a.dot)
  | _ => .error .notNumber

end Rule

/-- A value of a function at a point in the plane, where only flat spaces have their operations;
calls are counted as those at other points are. -/
def SampleFunction.atPlane {β : Type} (isFlat : Bool) (value : Rule Float → Outcome Float β) :
    SampleFunction Float → Attempt Float (Trail Float) (Option β)
  | rule r => do
    if r.usesSpace && !isFlat then throw .notNumber
    return some (← value r)
  | projected f => do
    if !isFlat then throw .notNumber
    f.atPlane isFlat value
  | nothing => return none
  | lacking => throw .notNumber
  | failing counter allowed message otherwise => do
    let calls ← Trail.count counter
    if allowed.lt (.int calls) then throw (.callback message)
    otherwise.atPlane isFlat value

structure PlaneProblem where
  cost : PlaneArray → Attempt Float (Trail Float) Float := fun _ => throw .notNumber
  field : PlaneArray → Attempt Float (Trail Float) MixedArray := fun _ => throw .notNumber
  derivative : Attempt Float (Trail Float) (LinearOperator Float) := throw .notNumber

namespace PlaneProblem

/-- The problem of sample functions. A derivative that is not the same everywhere has no value in
the plane. -/
def ofSamples (isFlat : Bool) (cost field : SampleFunction Float)
    (derivative : DerivativeRule Float) : PlaneProblem where
  cost p := do
    match ← cost.atPlane isFlat (Rule.planeCost p) with
    | some value => return value
    | none => throw .notNumber
  field p := do
    match ← field.atPlane isFlat (Rule.planeField p) with
    | some value => return value
    | none => throw .missingArray
  derivative :=
    match derivative, isFlat with
    | .matrix a, true => return .matrix a
    | .action a, true => return .action (DerivativeRule.flatAction a)
    | .scaled c, true => return .action fun v => do return v.scale (← c)
    | .failing message, _ => throw (.callback message)
    | _, _ => throw .notNumber

def newtonVector (plane : PlaneProblem) (problem : RootProblem Float) (p : PlaneArray) :
    Attempt Float (Trail Float) MixedArray := do
  problem.checkDimensions
  let derivative (_ : Tensor Float) := plane.derivative
  let _ ← plane.derivative
  let value := (← plane.field p).toPlane
  let solve (part : Tensor Float) : Attempt Float (Trail Float) (Tensor Float) :=
    ({ problem with map := .allocating fun _ => return some part, derivative }).newtonVector
      .off p.re none .none
  return .plane ⟨← solve value.re, ← solve value.im⟩

end PlaneProblem

end ManifoldOpt
