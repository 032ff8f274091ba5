import ManifoldOpt.Choice
import ManifoldOpt.Tensor.Basic

set_option autoImplicit false

namespace ManifoldOpt

inductive Literal (α : Type)
  | none
  | bool (b : Bool)
  | int (n : Int)
  | real (x : α)
  | string (s : String)
  | retraction (m : Retraction)
  | transport (m : Transport)
  | evaluation (e : Evaluation)
  | tuple (items : List (Literal α))
  | list (items : List (Literal α))
  | array (x : Tensor α)
  | kind (name : String)
  | object (description : String)

inductive Number (α : Type)
  | bool (b : Bool)
  | int (n : Int)
  | real (x : α)

namespace Literal

variable {α : Type}

def isScalar : Literal α → Bool
  | int _ => true
  | real _ => true
  | _ => false

def isInteger : Literal α → Bool
  | bool _ => true
  | int _ => true
  | _ => false

def isNone : Literal α → Bool
  | none => true
  | _ => false

def number? : Literal α → Option (Number α)
  | bool b => some (.bool b)
  | int n => some (.int n)
  | real x => some (.real x)
  | _ => Option.none

def isTruthy [Scalar α] : Literal α → Bool
  | none => false
  | bool b => b
  | int n => n ≠ 0
  | real x => !Scalar.isZero x
  | string s => !s.isEmpty
  | tuple items => !items.isEmpty
  | list items => !items.isEmpty
  | _ => true

def shape (s : Shape) : Literal α := tuple (s.map fun n : Nat => int n)

def kindName : Literal α → String
  | none => "NoneType"
  | bool _ => "bool"
  | int _ => "int"
  | real _ => "float"
  | string _ => "str"
  | retraction _ => "RetractionMethod"
  | transport _ => "VectorTransportMethod"
  | evaluation _ => "EvaluationType"
  | tuple _ => "tuple"
  | list _ => "list"
  | array _ => "jaxlib._jax.ArrayImpl"
  | kind _ => "type"
  | object _ => "object"

end Literal

namespace Number

variable {α : Type}

def literal : Number α → Literal α
  | bool b => .bool b
  | int n => .int n
  | real x => .real x

def int? : Number α → Option Int
  | bool b => some (if b then 1 else 0)
  | int n => some n
  | real _ => none

variable [Scalar α]

def value : Number α → α
  | bool b => if b then 1 else 0
  | int n => Scalar.ofInt n
  | real x => x

/-- Whether a whole number lies below a scalar, which is not rounded for it: the least whole number
not below a finite scalar decides. -/
def belowScalar (m : Int) (y : α) : Bool :=
  if Scalar.isFinite y then decide (m < -Scalar.floor (-y)) else decide (0 < y)

def scalarBelow (x : α) (n : Int) : Bool :=
  if Scalar.isFinite x then decide (Scalar.floor x < n) else decide (x < 0)

def atMostScalar (m : Int) (y : α) : Bool :=
  if Scalar.isFinite y then decide (m ≤ Scalar.floor y) else decide (0 ≤ y)

def scalarAtMost (x : α) (n : Int) : Bool :=
  if Scalar.isFinite x then decide (-Scalar.floor (-x) ≤ n) else decide (x ≤ 0)

def lt (x y : Number α) : Bool :=
  match x.int?, y.int? with
  | some m, some n => decide (m < n)
  | some m, none => belowScalar m y.value
  | none, some n => scalarBelow x.value n
  | none, none => decide (x.value < y.value)

def le (x y : Number α) : Bool :=
  match x.int?, y.int? with
  | some m, some n => decide (m ≤ n)
  | some m, none => atMostScalar m y.value
  | none, some n => scalarAtMost x.value n
  | none, none => decide (x.value ≤ y.value)

def same (x y : Number α) : Bool := x.le y && y.le x

end Number

end ManifoldOpt
