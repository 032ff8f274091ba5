import ManifoldOpt.Manifold.Basic
import ManifoldOpt.Manifold.Compiled
import ManifoldOpt.Parameter
import ManifoldOpt.Session.Plane
import ManifoldOpt.Tensor.Product

/-!
What a caller hands to an operation, and how operations take it. An operation may not look at an
operand at all, hand it on without looking, compute with it as it is, take parts of it, or turn it
into an array first; where there is no array, they fail in different ways.
-/

set_option autoImplicit false

namespace ManifoldOpt

inductive Operand
  | array (x : Tensor Float)
  | number (n : Number Float)
  | missing
  | aside (x : PlaneArray)
  | several (arrays : List (Tensor Float))
  | other

inductive Reading
  | ignored
  /-- Not looked at, but refused if it could never be an array. -/
  | carried
  | taken
  /-- Computed with as it is, and plain numbers, which have no parts, are refused. -/
  | divided
  | converted
  deriving DecidableEq, Repr

namespace Tensor

def stack (parts : List (Tensor Float)) : Outcome Float (Tensor Float) :=
  match parts with
  | [] => .ok (.vector [])
  | first :: rest =>
    if rest.all (·.shape = first.shape) then
      let entries := (parts.flatMap (·.entries)).toArray
      .ok (.tabulate (parts.length :: first.shape) fun i => entries.getD i 0)
    else .error .missingArray

end Tensor

namespace Operand

def array? : Operand → Option (Tensor Float)
  | array x => some x
  | number n => some (.scalar n.value)
  | _ => none

def truth? : Operand → Option Bool
  | number (.bool b) => some b
  | _ => none

def mixed? : Operand → Option MixedArray
  | aside x => some (.plane x)
  | operand => operand.array?.map .real

/-- The array an operation computes with; for an operand that is not looked at, any array serves. -/
def read (operand : Operand) : Reading → Outcome Float (Tensor Float)
  | .ignored => .ok (.scalar 0)
  | .carried =>
    match operand with
    | other => .error .notNumber
    | usable => .ok (usable.array?.getD (.scalar 0))
  | .taken => operand.array?.elim (.error .notNumber) .ok
  | .divided =>
    match operand with
    | array x => .ok x
    | _ => .error .notNumber
  | .converted =>
    match operand, operand.array? with
    | _, some x => .ok x
    | missing, none => .error .missingArray
    | several arrays, none => Tensor.stack arrays
    | _, none => .error .notNumber

mutual

def ofShown : Shown → Operand
  | .nothing => missing
  | .flag b => number (.bool b)
  | .count n => number (.int n)
  | .number x => array (.scalar x)
  | .array x => array x
  | .items values => several (arraysOf values)
  | .text _ => other
  | .fields _ => other
  | .fault _ => missing

def arraysOf : List Shown → List (Tensor Float)
  | [] => []
  | value :: rest =>
    match (ofShown value).array? with
    | some x => x :: arraysOf rest
    | none => arraysOf rest

end

def element? {β : Type} (items : List β) (position : Int) : Option β :=
  let i := if position < 0 then Int.ofNat items.length + position else position
  if i < 0 then none else items[i.toNat]?

def part (operand : Operand) (position : Int) : Outcome Float Operand := do
  match operand with
  | array x =>
    let slices ← x.slices
    let last := Int.ofNat slices.length - 1
    match element? slices (max (-Int.ofNat slices.length) (min last position)) with
    | some slice => return array slice
    | none => throw .missingAxis
  | several arrays =>
    match element? arrays position with
    | some x => return array x
    | none => throw .missingAxis
  | _ => throw .notNumber

end Operand

def checkOperands (operation : String) (operands : List Operand) : Outcome Float Unit := do
  let arrays := (operands.map Operand.array?).takeWhile Option.isSome |>.filterMap id
  if 1 < operands.length then
    checkShapes operation arrays
    if arrays.length < operands.length then throw .noAttribute

inductive Role
  | point
  | target
  | vector
  deriving DecidableEq, Repr

namespace SpaceKind

def flatReading : Operation → Role → Reading
  | .project, .vector => .converted
  | .project, _ => .ignored
  | .transp, .vector => .converted
  | .transp, _ => .ignored
  | .inner, .point => .carried
  | .basis, _ => .ignored
  | _, _ => .taken

def reading : SpaceKind → Operation → Role → Reading
  | euclidean, op, role => flatReading op role
  | weighted, .inner, .point => .divided
  | weighted, op, role => flatReading op role
  | sphere, .inner, .point => .carried
  | sphere, _, _ => .taken
  | plain, .retr, _ => .ignored
  | plain, .transp, _ => .ignored
  | plain, .inner, .point => .ignored
  | plain, op, role => flatReading op role
  | abstract, _, _ => .ignored

end SpaceKind

def Literal.seed : Literal Float → Outcome Float Int
  | .none => .error .missingArray
  | given =>
    match given.number?.bind Number.int? with
    | .none => .error .notNumber
    | .some n => if Number.fitsWord n then .ok n else .error .overflow

structure Operands where
  arrays : List (String × Operand) := []
  literals : List (String × Literal Float) := []
  center : Option (Tensor Float → Outcome Float (Tensor Float)) := none

namespace Operands

def operand (o : Operands) (name : String) : Operand := (o.arrays.lookup name).getD .missing

def read (o : Operands) (name : String) (reading : Reading) : Outcome Float (Tensor Float) :=
  (o.operand name).read reading

def taken (o : Operands) (name : String) : Outcome Float (Tensor Float) := o.read name .taken

def converted (o : Operands) (name : String) : Outcome Float (Tensor Float) :=
  o.read name .converted

def literal (o : Operands) (name : String) (default : Literal Float := .none) : Literal Float :=
  (o.literals.lookup name).getD default

def basis (o : Operands) : Outcome Float (Option (Tensor Float)) :=
  match o.operand "basis" with
  | .missing => .ok none
  | .array b => .ok (some b)
  | _ => .error .noAttribute

def scaledVector (o : Operands) : Outcome Float (Tensor Float) := do
  let v ← o.taken "v"
  match o.literal "scale" (.real 1) with
  | .array scale => scale.mul v
  | given => return v.scale (← given.factor)

def seed (o : Operands) : Outcome Float Int := (o.literal "seed" (.int 0)).seed

def shape (o : Operands) : Outcome Float (Option Shape) :=
  match o.literal "shape" with
  | .list axes => do
    let lengths ← axes.mapM fun axis =>
      match axis.number?.bind Number.int? with
      | none => .error .notNumber
      | some n =>
        if n < 0 then .error .notNumber
        else if Number.fitsWord n then .ok n.toNat
        else .error .overflow
    return some lengths
  | _ => return none

end Operands

end ManifoldOpt
