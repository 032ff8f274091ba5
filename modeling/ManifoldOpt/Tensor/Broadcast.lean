import ManifoldOpt.Fault

set_option autoImplicit false

namespace ManifoldOpt

namespace Shape

def joinAxis (m n : Nat) : Option Nat :=
  if m = n then some m else if m = 1 then some n else if n = 1 then some m else none

def joinReversed : Shape → Shape → Option Shape
  | [], t => some t
  | s, [] => some s
  | m :: s, n :: t => do
    let axis ← joinAxis m n
    let rest ← joinReversed s t
    return axis :: rest

def join (s t : Shape) : Option Shape := (joinReversed s.reverse t.reverse).map List.reverse

/-- The row-major position in the source that the position `i` of the target repeats, both shapes
given from the last axis to the first. -/
def origin : Shape → Shape → Nat → Nat
  | m :: s, n :: t, i => (if m = 1 then 0 else i % n) + m * origin s t (i / n)
  | _, _, _ => 0

end Shape

namespace Tensor

variable {α : Type} [Scalar α]

def repeated (x : Tensor α) (target : Shape) : Tensor α :=
  if x.shape = target then x
  else tabulate target fun i =>
    x.entries.getD (Shape.origin x.shape.reverse target.reverse i) 0

def zipSame (f : α → α → α) (x y : Tensor α) (h : x.shape = y.shape) : Tensor α :=
  ⟨x.shape, List.zipWith f x.entries y.entries, by simp [x.size_eq, y.size_eq, h]⟩

def zipSpread (f : α → α → α) (x y : Tensor α) : Outcome α (Tensor α) :=
  match Shape.join x.shape y.shape with
  | none => .error .shapeClash
  | some s =>
    .ok (tabulate s fun i =>
      f (x.entries.getD (Shape.origin x.shape.reverse s.reverse i) 0)
        (y.entries.getD (Shape.origin y.shape.reverse s.reverse i) 0))

def pointwise (f : α → α → α) (x y : Tensor α) : Outcome α (Tensor α) :=
  if h : x.shape = y.shape then .ok (zipSame f x y h)
  else match x.item?, y.item? with
    | some a, _ => .ok (y.map (f a))
    | _, some b => .ok (x.map (f · b))
    | none, none => zipSpread f x y

def add (x y : Tensor α) : Outcome α (Tensor α) := pointwise Scalar.sum x y
def sub (x y : Tensor α) : Outcome α (Tensor α) := pointwise Scalar.difference x y
def mul (x y : Tensor α) : Outcome α (Tensor α) := pointwise Scalar.product x y
def div (x y : Tensor α) : Outcome α (Tensor α) := pointwise Scalar.quotient x y

def select (test : Bool) (x y : Tensor α) : Outcome α (Tensor α) :=
  pointwise (fun a b => if test then a else b) x y

def selectBy (test : α → Bool) (c x y : Tensor α) : Outcome α (Tensor α) := do
  let left ← pointwise (fun a _ => a) x y
  let right ← pointwise (fun _ b => b) x y
  match Shape.join c.shape left.shape with
  | none => .error .shapeClash
  | some s =>
    let entryAt (t : Tensor α) (i : Nat) : α :=
      t.entries.getD (Shape.origin t.shape.reverse s.reverse i) 0
    return tabulate s fun i => if test (entryAt c i) then entryAt left i else entryAt right i

def number (x : Tensor α) : Outcome α α :=
  match x.item? with
  | some a => .ok a
  | none => .error .notNumber

def reshape (x : Tensor α) (shape : Shape) : Outcome α (Tensor α) :=
  match x.reshape? shape with
  | some y => .ok y
  | none => .error .shapeClash

end Tensor

end ManifoldOpt
