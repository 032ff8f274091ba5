import ManifoldOpt.Damping
import ManifoldOpt.Session.Attribute
import ManifoldOpt.Session.Space
import ManifoldOpt.Session.StepLength

/-!
States under an overlay of held attributes. Reading an attribute asks the overlay first, and writing
one takes its name off the overlay, at the moment when it is written: what an operation has written
before it fails is no longer covered.
-/

set_option autoImplicit false

namespace ManifoldOpt

structure Overlaid (S : Type) where
  own : S
  held : Attributes := []

abbrev Handling (S : Type) := Running Float (Overlaid S)

namespace Overlaid

variable {S : Type}

def covers (s : Overlaid S) (name : String) : Bool := s.held.has name

def operand (name : String) (own : S → Tensor Float) (s : Overlaid S) : Operand :=
  (s.held.lookup name).elim (.array (own s.own)) Held.operand

def write (name : String) (f : S → S) (s : Overlaid S) : Overlaid S where
  own := f s.own
  held := s.held.forget name

def hold (name : String) (value : Held) (s : Overlaid S) : Overlaid S :=
  { s with held := s.held.hold name value }

def notes (n : DampingNotes Float S) : DampingNotes Float (Overlaid S) where
  setAlpha a := write "alpha" (n.setAlpha a)
  setTheta t := write "theta" (n.setTheta t)
  setSame b := write "is_same" (n.setSame b)
  setTrial p := write "p_trial" (n.setTrial p)

end Overlaid

namespace Space

variable (S : Space)

def normOf (p v : Operand) : Outcome Float Float := do
  (← S.compute { arrays := [("x", p), ("v", v)] } "norm").number

def retractAside (p v : MixedArray) : Retraction → Outcome Float MixedArray
  | .exponential =>
    match S.kind with
    | .sphere => p.alongCircle v
    | .abstract => do return .real (← S.manifold.exp p.re v.re)
    | _ => p.add v
  | .projection =>
    match S.kind with
    | .sphere => p.ontoSphere v
    | .euclidean => p.add v
    | .weighted => p.add v
    | _ => do return .real (← S.manifold.retr p.re v.re)

def retractOf (p v : Operand) (length : StepLength) (method : Literal Float) :
    Outcome Float MixedArray := do
  match length, p, v with
  | .real s, .aside x, v =>
    let r ← S.manifold.retraction method
    let v ← v.mixed?.elim (.error .notNumber) .ok
    S.retractAside (.plane x) (← v.scale s) r
  | .real s, p, .aside v =>
    let r ← S.manifold.retraction method
    S.retractAside (.real (← p.read .taken)) (← (MixedArray.plane v).scale s) r
  | .real s, p, v =>
    return .real (← S.retract
      { arrays := [("x", p), ("v", v)], literals := [("scale", .real s), ("method", method)] })
  | .plane z, p, v =>
    let r ← S.manifold.retraction method
    let v ← v.mixed?.elim (.error .notNumber) .ok
    let p ← p.mixed?.elim (.error .notNumber) .ok
    S.retractAside p (← z.toArray.mul v) r

/-- The manifold at a point and for a direction as they are held: where an operation comes to look
at one that is not usable, it fails. -/
def heldAt (p v : Operand) : Manifold Float :=
  { S.manifold with
    inner := fun x u w => do
      let _ ← p.read (S.kind.reading .inner .point)
      let _ ← v.read (S.kind.reading .inner .vector)
      S.manifold.inner x u w
    exp := fun x w => do
      let _ ← p.read (S.kind.reading .exp .point)
      S.manifold.exp x w
    retr := fun x w => do
      let _ ← p.read (S.kind.reading .retr .point)
      S.manifold.retr x w }

end Space

namespace Handling

variable {S β : Type}

def state : Handling S (Overlaid S) := Running.getOwn

def own : Handling S S := do
  return (← state).own

def onOwn (m : Running Float S β) : Handling S β := fun s =>
  let r := s.state
  match m ⟨s.trail, { r with own := r.own.own }⟩ with
  | .ok b t => .ok b ⟨t.trail, { t.state with own := { r.own with own := t.state.own } }⟩
  | .error e t => .error e ⟨t.trail, { t.state with own := { r.own with own := t.state.own } }⟩

/-- Runs with an overlay of which nothing is kept. -/
def uncovered (m : Handling S β) : Running Float S β := fun s =>
  let r := s.state
  match m ⟨s.trail, { r with own := { own := r.own } }⟩ with
  | .ok b t => .ok b ⟨t.trail, { t.state with own := t.state.own.own }⟩
  | .error e t => .error e ⟨t.trail, { t.state with own := t.state.own.own }⟩

def write (name : String) (f : S → S) : Handling S Unit :=
  Running.modifyOwn (Overlaid.write name f)

def hold (name : String) (value : Held) : Handling S Unit :=
  Running.modifyOwn (Overlaid.hold name value)

def writeStepsize (length : Option Float) : Handling S Unit := do
  Running.setStepsize length
  Running.modifyOwn (Overlaid.write "last_stepsize" id)

def writeLength : StepLength → Handling S Unit
  | .real x => writeStepsize (some x)
  | .plane z => hold "last_stepsize" (.planeNumber z)

def calling (name : String) (m : Handling S β) : Handling S β := do
  if (← state).covers name then throw .notNumber
  m

/-- Puts a computed value in the place of an attribute; a number that is none of the scalars is held
as it is. -/
def place (name : String) (put : Tensor Float → S → S) (value : Computed) : Handling S Unit :=
  match Operand.ofShown value.value with
  | .array x => write name (put x)
  | .number n => do
    write name (put (.scalar n.value))
    hold name (.given n.literal)
  | _ => throw .notNumber

def placeMixed (name : String) (put : Tensor Float → S → S) (x : MixedArray) :
    Handling S Unit := do
  write name (put x.re)
  match x with
  | .real _ => return
  | .plane x => hold name (.planeArray x)

def copyPoint (space : Space) (point : S → Tensor Float) (name : String)
    (put : Tensor Float → S → S) : Handling S Unit := do
  let s ← state
  match s.held.lookup "p" with
  | some (.planeArray x) => placeMixed name put (.plane x)
  | _ => place name put (← space.value { arrays := [("x", s.operand "p" point)] } "copy")

def zeroAtPoint (space : Space) (point : S → Tensor Float) (name : String)
    (put : Tensor Float → S → S) : Handling S Unit := do
  let s ← state
  match s.held.lookup "p" with
  | some (.planeArray x) => placeMixed name put (.plane x.zerosLike)
  | _ => place name put (← space.value { arrays := [("x", s.operand "p" point)] } "zero_vector")

def replacePoint (point : S → Tensor Float) (put : Tensor Float → S → S) (p : Operand) :
    Handling S Unit := do
  let s ← state
  let current ← match s.held.lookup "p" with
    | some (.planeArray x) => pure x.re
    | _ => do
      let x ← (s.operand "p" point).read .converted
      pure x
  let moved ← copyTo current (← p.read .converted)
  write "p" (put moved)

end Handling

/-- What the solvers with a point and a direction need to know of a state. -/
structure Places (S : Type) where
  point : S → Tensor Float
  setPoint : Tensor Float → S → S
  direction : S → Tensor Float
  retraction : S → Literal Float
  stepsize : S → Stepsize Float
  notes : DampingNotes Float S

namespace Places

open Handling

variable {S : Type} (places : Places S) (space : Space)

def directionNorm (s : Overlaid S) : Outcome Float Float := do
  if s.covers "get_iterate" || s.covers "get_direction" then throw .notNumber
  space.normOf (s.operand "p" places.point) (s.operand "X" places.direction)

/-- The length of step `k`; `simplified` computes directions at trial points. -/
def stepLength (simplified : Handling S (Tensor Float)) (k : Int) : Handling S StepLength := do
  let s ← state
  if s.covers "stepsize" then throw .notNumber
  match places.stepsize s.own with
  | .rule r => return ← r.givenLength (places.directionNorm space s) (.int k)
  | .damped d =>
    let length ← DampingSearch.run
      { notes := Overlaid.notes places.notes
        manifold := space.heldAt (s.operand "p" places.point) (s.operand "X" places.direction)
        point := places.point s.own, direction := places.direction s.own
        retraction := places.retraction s.own, simplified, iteration := k } d
    return .real length
  | .inert _ => throw .notNumber

def advance (length : StepLength) : Handling S Unit := do
  let s ← state
  let moved ← space.retractOf (s.operand "p" places.point) (s.operand "X" places.direction) length
    (places.retraction s.own)
  placeMixed "p" places.setPoint moved

end Places

end ManifoldOpt
