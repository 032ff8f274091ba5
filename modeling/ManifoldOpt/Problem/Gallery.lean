import ManifoldOpt.Problem.Basic
import ManifoldOpt.Solver.Trail

set_option autoImplicit false

namespace ManifoldOpt

variable {α : Type} [Scalar α]

inductive Rule (α : Type)
  | dist (target : Option (Tensor α))
  | absolute (weights target : Tensor α)
  | largest (target : Tensor α)
  | squared (target : Tensor α)
  | linear (a : Tensor α)
  | maxAffine (a b : Tensor α)
  | rootOfSum
  | constant (value : Tensor α)
  | scaled (c : Outcome α α) (target : Option (Tensor α))
  | affine (a b : Tensor α)
  | power (exponent : Outcome α α) (a : Tensor α)
  | arctan
  | field (a : Option (Tensor α))
  | rayleigh (a : Tensor α)

inductive SampleFunction (α : Type)
  | rule (r : Rule α)
  | projected (f : SampleFunction α)
  | nothing
  | lacking
  /-- Calls are counted; those after the allowed ones fail, the others follow another function. -/
  | failing (counter : Nat) (allowed : Number α) (message : String) (otherwise : SampleFunction α)

namespace Rule

def argmax (entries : List α) : Nat × α :=
  match entries with
  | [] => (0, 0)
  | first :: rest =>
    let step (state : Nat × Nat × α) (x : α) : Nat × Nat × α :=
      let (next, best, top) := state
      if Scalar.exceeds x top then (next + 1, next, x) else (next + 1, best, top)
    (rest.foldl step (1, 0, first)).2

def top (x : Tensor α) : Outcome α (Tensor α) :=
  if x.entries.isEmpty then .error .missingArray else .ok (.scalar (argmax x.entries).2)

def awayFrom (M : Manifold α) (target p : Tensor α) : Outcome α (Tensor α) := do
  let distance ← M.dist p target
  let v ← M.log p target
  let unit ← v.neg.div (distance.map (Scalar.maximum · 1e-12))
  Tensor.selectBy (fun d => decide (1e-12 < d)) distance unit p.zerosLike

def signOfLargest (target p : Tensor α) : Outcome α (Tensor α) := do
  let r ← p.sub target
  let (i, _) := argmax (r.entries.map Scalar.abs)
  let signs := Tensor.tabulate [r.entries.length] fun j =>
    if j = i then Scalar.sign (r.entries.getD j 0) else 0
  signs.reshape p.shape

def affineValues (a b p : Tensor α) : Outcome α (Tensor α) := do
  let image ← a.apply p.ravel
  image.add b

def steepestRow (a b p : Tensor α) : Outcome α (Tensor α) := do
  let values ← affineValues a b p
  if values.entries.isEmpty then throw .missingArray
  let rows ← a.slices
  match rows[min (argmax values.entries).1 (rows.length - 1)]? with
  | some row => row.reshape p.shape
  | none => throw .missingAxis

def weightedSigns (weights target p : Tensor α) : Outcome α (Tensor α) := do
  let r ← p.sub target
  weights.mul (r.map Scalar.sign)

def rootSlope (p : Tensor α) : Tensor α :=
  let slope := 1 / ((1 + 1) * Scalar.sqrt p.total)
  p.map fun _ => slope

def multiple (c : Outcome α α) (target : Option (Tensor α)) (p : Tensor α) :
    Outcome α (Tensor α) := do
  match target with
  | none => return p.scale (← c)
  | some t =>
    let r ← p.sub t
    return r.scale (← c)

def distanceTo (M : Manifold α) (target : Option (Tensor α)) (p : Tensor α) :
    Outcome α (Tensor α) :=
  match target with
  | some t => M.dist p t
  | none => do
    return .scalar (← withoutArrays M.distNumber)

def tangentPart (M : Manifold α) (a : Option (Tensor α)) (p : Tensor α) : Outcome α (Tensor α) :=
  match a with
  | some v => M.project p v
  | none => .error M.projectNothing

def affineMap (a b p : Tensor α) : Outcome α (Tensor α) := do
  let image ← a.apply p.ravel
  let value ← image.sub b
  return (value.reshape? p.shape).getD value

def cost (M : Manifold α) (p : Tensor α) : Rule α → Outcome α (Tensor α)
  | dist target => distanceTo M target p
  | absolute weights target => do
    let r ← p.sub target
    let terms ← weights.mul (r.map Scalar.abs)
    return .scalar terms.total
  | largest target => do
    let r ← p.sub target
    top (r.map Scalar.abs)
  | squared target => do
    let r ← p.sub target
    return .scalar (r.map Scalar.square).total
  | linear a => do
    let terms ← a.mul p
    return .scalar terms.total
  | maxAffine a b => do
    let values ← affineValues a b p
    top values
  | rootOfSum => .ok (.scalar (Scalar.sqrt p.total))
  | constant value => .ok value
  | scaled c target => multiple c target p
  | affine a b => affineMap a b p
  | power exponent a => do
    let k ← exponent
    (p.map (Scalar.pow · k)).sub a
  | arctan => .ok (p.map Scalar.arctan)
  | field a => tangentPart M a p
  | rayleigh a => do
    let image ← a.dot p
    M.project p image

def vectorField (M : Manifold α) (p : Tensor α) : Rule α → Outcome α (Tensor α)
  | dist (some target) => awayFrom M target p
  | absolute weights target => weightedSigns weights target p
  | largest target => signOfLargest target p
  | squared target => do
    let r ← p.sub target
    return r.scale (1 + 1)
  | linear a => .ok a
  | maxAffine a b => steepestRow a b p
  | rootOfSum => .ok (rootSlope p)
  | other => cost M p other

end Rule

def SampleFunction.call (M : Manifold α) (value : Rule α → Tensor α → Outcome α (Tensor α)) :
    SampleFunction α → Callback α
  | rule r, p => do
    let v ← value r p
    return some v
  | projected f, p => do
    match ← f.call M value p with
    | none => throw M.projectNothing
    | some v => return some (← M.project p v)
  | nothing, _ => return none
  | lacking, _ => throw .notNumber
  | failing counter allowed message otherwise, p => do
    let calls ← Trail.count counter
    if allowed.lt (.int calls) then throw (.callback message)
    otherwise.call M value p

inductive BufferUse
  | fill
  | add
  | forget
  deriving DecidableEq, Repr

def BufferUse.filled (v : Tensor α) : Outcome α (Tensor α) → Outcome α (Tensor α)
  | .ok buffer =>
    if Shape.join buffer.shape v.shape = some buffer.shape then .ok (v.repeated buffer.shape)
    else .error .bufferClash
  | .error .missingArray => .ok v
  | .error _ => .error .noAttribute

def BufferUse.apply (f : Callback α) (buffer : Outcome α (Tensor α)) (p : Tensor α) :
    BufferUse → Attempt α (Trail α) (Option (Tensor α))
  | .fill => do
    match ← f p with
    | none => throw .missingArray
    | some v => return some (← filled v buffer)
  | .add => do
    match ← f p, buffer with
    | some v, .ok b => return some (← b.add v)
    | _, _ => throw .notNumber
  | .forget => do
    let _ ← f p
    return none

def SampleFunction.procedure (M : Manifold α) (f : SampleFunction α) (use : BufferUse)
    (name : String) : Evaluation → Procedure α
  | .allocating => .allocating (f.call M fun r p => r.vectorField M p)
  | .inPlace => .inPlace name (use.apply (f.call M fun r p => r.vectorField M p))

inductive DerivativeRule (α : Type)
  | matrix (a : Tensor α)
  | action (a : Tensor α)
  | scaled (c : Outcome α α)
  | power (exponent : Outcome α α)
  | arctan
  | field (a : Tensor α)
  | rayleigh (a : Tensor α)
  | failing (message : String)
  /-- A rule without an array it needs, which shows once the derivative is applied. -/
  | lacking (fault : Fault α)

namespace DerivativeRule

def diagonal (entries : List α) : Tensor α :=
  let n := entries.length
  Tensor.tabulate [n, n] fun i => if i / n = i % n then entries.getD (i % n) 0 else 0

def flatAction (a v : Tensor α) : Outcome α (Tensor α) := do
  let image ← a.apply v.ravel
  image.reshape v.shape

def fieldAction (a p v : Tensor α) : Outcome α (Tensor α) := do
  let height ← a.dot p
  height.neg.mul v

def rayleighAction (M : Manifold α) (a p v : Tensor α) : Outcome α (Tensor α) := do
  let image ← a.dot v
  let tangential ← M.project p image
  let value ← a.dot p
  let quotient ← p.dot value
  let part ← quotient.mul v
  tangential.sub part

def operator (M : Manifold α) (p : Tensor α) : DerivativeRule α → Outcome α (LinearOperator α)
  | matrix a => .ok (.matrix a)
  | action a => .ok (.action (flatAction a))
  | scaled c => .ok (.action fun v => do return v.scale (← c))
  | power exponent => do
    let k ← exponent
    return .matrix (diagonal (p.entries.map fun x => Scalar.product k (Scalar.pow x (k - 1))))
  | arctan => .ok (.matrix (diagonal (p.entries.map fun x => 1 / (1 + x * x))))
  | field a => .ok (.action (fieldAction a p))
  | rayleigh a => .ok (.action (rayleighAction M a p))
  | failing message => .error (.callback message)
  | lacking fault => .ok (.action fun _ => .error fault)

end DerivativeRule

inductive ConnectionRule (α : Type)
  | identity
  | scaled (c : Outcome α α)
  | matrix (a : Tensor α)
  | lacking

def ConnectionRule.map (q : Tensor α) : ConnectionRule α → Outcome α (Tensor α)
  | identity => .ok q
  | scaled c => do return q.scale (← c)
  | matrix a => DerivativeRule.flatAction a q
  | lacking => .error .notNumber

end ManifoldOpt
