import ManifoldOpt.Fault
import ManifoldOpt.Text.Literal

set_option autoImplicit false

namespace ManifoldOpt

inductive Shown
  | nothing
  | flag (b : Bool)
  | count (n : Int)
  | number (x : Float)
  | text (s : String)
  | array (x : Tensor Float)
  | items (values : List Shown)
  | fields (values : List (String × Shown))
  | fault (e : Fault Float)

namespace Shown

def done : Shown := flag true

def ofOption {β : Type} (f : β → Shown) (x : Option β) : Shown := x.elim nothing f

def ofOutcome {β : Type} (f : β → Shown) : Outcome Float β → Shown
  | .ok b => f b
  | .error e => fault e

def ofShape (s : Shape) : Shown := items (s.map fun n => count (Int.ofNat n))

mutual

def ofLiteral : Literal Float → Shown
  | .none => nothing
  | .bool b => flag b
  | .int n => count n
  | .real x => number x
  | .string s => text s
  | .retraction m => text m.name
  | .transport m => text m.name
  | .evaluation e => text e.name
  | .tuple values => items (ofLiterals values)
  | .list values => items (ofLiterals values)
  | .array x => array x
  | .kind name => text (Literal.kind name : Literal Float).text
  | .object description => text description

def ofLiterals : List (Literal Float) → List Shown
  | [] => []
  | value :: rest => ofLiteral value :: ofLiterals rest

end

mutual

/-- Whether the same is shown; numbers are compared with their signs, and faults are never alike. -/
def same : Shown → Shown → Bool
  | nothing, nothing => true
  | flag a, flag b => a = b
  | count m, count n => m = n
  | number x, number y => x.toBits = y.toBits
  | text s, text t => s = t
  | array x, array y =>
    x.shape = y.shape && x.entries.map Float.toBits = y.entries.map Float.toBits
  | items xs, items ys => sameEach xs ys
  | _, _ => false

def sameEach : List Shown → List Shown → Bool
  | [], [] => true
  | x :: xs, y :: ys => same x y && sameEach xs ys
  | _, _ => false

end

def ofNumber (n : Number Float) : Shown := ofLiteral n.literal

end Shown

end ManifoldOpt
