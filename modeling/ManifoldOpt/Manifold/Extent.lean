import ManifoldOpt.Parameter
import ManifoldOpt.Tensor.Broadcast
import ManifoldOpt.Tensor.Product

/-!
Sizes of spaces as a caller gives them. A sphere takes one positive size, a Euclidean space and a
fiber at least one each. The checked way in also insists on whole numbers; the plain one accepts
every number, and every array of one number, that is not below one, and keeps it as given.
-/

set_option autoImplicit false

namespace ManifoldOpt

variable {α : Type} [Scalar α]

inductive Extent (α : Type)
  | number (n : Number α)
  | array (x : Tensor α)

namespace Extent

def literal : Extent α → Literal α
  | number n => n.literal
  | array x => .array x

def number? : Extent α → Option (Number α)
  | number n => some n
  | array _ => none

def ofLiteral : Literal α → Outcome α (Extent α)
  | .array x => .ok (array x)
  | other => do
    return number (← other.compared)

def belowOne : Extent α → Outcome α Bool
  | number n => .ok (n.lt (.int 1))
  | array x => x.holds fun a => decide (a < 1)

def combine (onNumbers : Number α → Number α → Outcome α (Number α)) (onEntries : α → α → α) :
    Extent α → Extent α → Outcome α (Extent α)
  | number m, number n => do
    return number (← onNumbers m n)
  | number m, array y => do
    let a ← m.factor
    return array (y.map (onEntries a))
  | array x, number n => do
    let b ← n.factor
    return array (x.map (onEntries · b))
  | array x, array y => do
    return array (← Tensor.pointwise onEntries x y)

def add (x y : Extent α) : Outcome α (Extent α) := combine Number.add (· + ·) x y

def mul (x y : Extent α) : Outcome α (Extent α) := combine Number.mul (· * ·) x y

def product (axes : List (Extent α)) : Outcome α (Extent α) :=
  axes.foldlM mul (number (.int 1))

/-- The sizes of several values, unless one of them, from left to right, is below one. -/
def allFromOne (refusal : Fault α) : List (Literal α) → Outcome α (List (Extent α))
  | [] => .ok []
  | given :: rest => do
    let extent ← ofLiteral given
    if ← extent.belowOne then throw refusal
    return extent :: (← allFromOne refusal rest)

def ofSphere (checked : Bool) : List (Literal α) → Outcome α (Extent α)
  | [] => .ok (number (.int 2))
  | [given] =>
    if checked && !given.isInteger then .error (.sphereExtentKind given)
    else do
      let extent ← ofLiteral given
      if ← extent.belowOne then throw (.sphereExtent given)
      return extent
  | _ => .error .argumentCount

def ofEuclidean (checked : Bool) (given : List (Literal α)) : Outcome α (List (Extent α)) :=
  if checked && !given.all Literal.isInteger then .error (.euclideanExtentKind given)
  else if given.isEmpty then .error .noExtent
  else allFromOne (.euclideanExtent given) given

def ofFiber (given : List (Literal α)) : Outcome α (List (Extent α)) :=
  if given.isEmpty then .error (.fiberExtent given) else allFromOne (.fiberExtent given) given

end Extent

end ManifoldOpt
