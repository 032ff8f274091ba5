import ManifoldOpt.Session.Operand
import ManifoldOpt.Session.State

set_option autoImplicit false

namespace ManifoldOpt

inductive Held
  | given (v : Literal Float)
  | planeNumber (z : PlaneNumber)
  | planeArray (x : PlaneArray)

namespace Held

def shown : Held → Shown
  | given v => .ofLiteral v
  | planeNumber z => .text z.text
  | planeArray x => x.shown

def operand : Held → Operand
  | given .none => .missing
  | given (.array x) => .array x
  | given v => v.number?.elim .other .number
  | planeNumber _ => .other
  | planeArray x => .aside x

def display : Held → String
  | given v => v.display
  | planeNumber z => z.text
  | planeArray _ => ""

def compared : Held → Outcome Float (Number Float)
  | given (.array x) =>
    match x.entries with
    | [n] => .ok (.real n)
    | _ => .error .ambiguous
  | given v => v.compared
  | _ => .error .notNumber

def requireDigits : Held → Outcome Float Unit
  | given (.string _) => .error .unknownName
  | given (.array x) => if x.rank = 0 then .ok () else .error .notNumber
  | given v => v.toScalar.map fun _ => ()
  | _ => .ok ()

def countText : Held → Outcome Float (Option String)
  | given (.array x) =>
    match x.entries with
    | [n] => .ok (if 0 < n then some ("After " ++ x.display ++ " iterations") else none)
    | _ => .error .ambiguous
  | given v => do
    return ManifoldOpt.countText (← v.compared)
  | _ => .error .notNumber

end Held

abbrev Attributes := List (String × Held)

namespace Attributes

def forget (name : String) (a : Attributes) : Attributes := a.filter (·.1 ≠ name)

def hold (name : String) (value : Held) (a : Attributes) : Attributes :=
  (name, value) :: a.forget name

def has (a : Attributes) (name : String) : Bool := (a.lookup name).isSome

end Attributes

namespace Literal

def assignedScalar? (value : Literal Float) : Option Float :=
  match value with
  | .array x => if x.rank = 0 then x.entries.head? else .none
  | other => other.number?.map Number.value

def assignedTensor? (value : Literal Float) : Option (Tensor Float) := value.toTensor.toOption

end Literal

end ManifoldOpt
