import ManifoldOpt.Solver.Trail

set_option autoImplicit false

namespace ManifoldOpt

variable {α : Type} [Scalar α]

inductive Entry (α : Type)
  | count (n : Int)
  | number (x : α)
  | point (p : Tensor α)
  | nothing

structure Recorder (α : Type) where
  fields : List Field
  columns : List (Field × List (Entry α))
  previous : Option (Tensor α) := none

namespace Recorder

def emptyColumns (fields : List Field) : List (Field × List (Entry α)) :=
  fields.eraseDups.map fun f => (f, [])

def ofFields (fields : List Field) : Recorder α := { fields, columns := emptyColumns fields }

def fieldOf? : Literal α → Option Field
  | .string s => Field.ofName? s
  | _ => none

def items : Literal α → Outcome α (List (Literal α))
  | .string s => .ok [.string s]
  | .list items => .ok items
  | .tuple items => .ok items
  | _ => .error .notNumber

def isName : Literal α → Bool
  | .list _ => false
  | .array _ => false
  | _ => true

def ofLiteral (given : Literal α) : Outcome α (Recorder α) := do
  let wanted ← items given
  if !wanted.all isName then throw .notNumber
  let unknown := wanted.filter fun item => (fieldOf? item).isNone
  if unknown.isEmpty then return ofFields (wanted.filterMap fieldOf?)
  else throw (.configuration "record" (.list unknown) .recordable)

def ofOption : Literal α → Outcome α (Option (Recorder α))
  | .none => .ok none
  | given => do
    return some (← ofLiteral given)

def column? (r : Recorder α) (f : Field) : Option (List (Entry α)) := r.columns.lookup f

def append (f : Field) (entry : Entry α) (r : Recorder α) : Recorder α :=
  { r with columns := r.columns.map fun c => if c.1 = f then (c.1, c.2 ++ [entry]) else c }

/-- The number of recorded iterations, told by the first field. -/
def size (r : Recorder α) : Nat :=
  match r.fields with
  | [] => 0
  | f :: _ => ((r.column? f).getD []).length

def get (r : Recorder α) (name : String) : Outcome α (List (Entry α)) :=
  match (Field.ofName? name).bind r.column? with
  | some entries => .ok entries
  | none => .error (.notRecorded name r.fields)

abbrev Recording (α : Type) := Attempt α (Stage α (Recorder α))

def start (view : View α) : Recording α Unit := do
  Stage.modifyState fun r => { r with columns := emptyColumns r.fields }
  let _ ← view.manifold
  let p ← view.point
  Stage.modifyState fun r => { r with previous := some p }

def measure (view : View α) (stepsize : Option α) (k : Int) (previous : Option (Tensor α)) :
    Field → Attempt α (Trail α) (Entry α)
  | .iteration => return .count k
  | .iterate => do
    let _ ← view.manifold
    let p ← view.point
    return .point p
  | .change => do
    let M ← view.manifold
    return .number (← distBetween M previous (← view.iterate))
  | .cost =>
    match view.cost with
    | none => throw .noAttribute
    | some cost => do
      match ← view.iterate with
      | some p => return .number (← cost p)
      | none => throw .notNumber
  | .stepsize => return stepsize.elim .nothing .number
  | .directionNorm => do
    let M ← view.manifold
    return .number (← normAt M previous (← view.direction))

def recordEach (view : View α) (stepsize : Option α) (k : Int) : List Field → Recording α Unit
  | [] => return
  | f :: rest => do
    let r ← Stage.getState
    let entry ← Stage.onTrail (measure view stepsize k r.previous f)
    Stage.modifyState (append f entry)
    recordEach view stepsize k rest

def record (view : View α) (stepsize : Option α) (k : Int) : Recording α Unit := do
  let r ← Stage.getState
  recordEach view stepsize k r.fields
  let _ ← view.manifold
  let p ← view.point
  Stage.modifyState fun r => { r with previous := some p }

end Recorder

end ManifoldOpt
