import ManifoldOpt.Fault
import ManifoldOpt.Text.Numeral

/-!
Conversions of parameters. A value is compared, or turned into a scalar, a factor or an array, when
it is used, and each conversion fails in its own way: only numbers compare, a whole number can be
too large for a scalar, and a factor of arrays has to fit into a machine word.
-/

set_option autoImplicit false

namespace ManifoldOpt

variable {α : Type} [Scalar α]

namespace Number

def toScalar (n : Number α) : Outcome α α :=
  match n with
  | real x => .ok x
  | other => if Scalar.isFinite other.value then .ok other.value else .error .overflow

def fitsWord (n : Int) : Bool :=
  decide (-Int.ofNat (Nat.pow 2 63) ≤ n) && decide (n < Int.ofNat (Nat.pow 2 63))

/-- The scalar that a number means beside arrays, where whole numbers are machine words. -/
def factor (n : Number α) : Outcome α α :=
  match n with
  | int m => if fitsWord m then .ok (Scalar.ofInt m) else .error .overflow
  | other => .ok other.value

def combine (whole : Int → Int → Int) (scalar : α → α → α) (x y : Number α) :
    Outcome α (Number α) := do
  match x.int?, y.int? with
  | some m, some n => return int (whole m n)
  | _, _ => return real (scalar (← x.toScalar) (← y.toScalar))

def add (x y : Number α) : Outcome α (Number α) := combine (· + ·) (· + ·) x y

def mul (x y : Number α) : Outcome α (Number α) := combine (· * ·) (· * ·) x y

def neg : Number α → Number α
  | real x => real (-x)
  | other => int (-other.int?.getD 0)

end Number

namespace Literal

def compared (given : Literal α) : Outcome α (Number α) :=
  match given.number? with
  | .none => .error .notNumber
  | .some n => .ok n

def toScalar (given : Literal α) : Outcome α α :=
  match given with
  | .string s =>
    match Numeral.scalar? s with
    | .some x => .ok x
    | .none => .error .unknownName
  | other => do
    let n ← other.compared
    n.toScalar

def factor (given : Literal α) : Outcome α α := do
  let n ← given.compared
  n.factor

def negatedFactor (given : Literal α) : Outcome α α := do
  let n ← given.compared
  return -(← n.neg.factor)

def toTensor (given : Literal α) : Outcome α (Tensor α) :=
  match given with
  | .array x => .ok x
  | .none => .error .missingArray
  | other => do
    let n ← other.compared
    return .scalar n.value

end Literal

end ManifoldOpt
