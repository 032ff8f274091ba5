import ManifoldOpt.Constants
import ManifoldOpt.Session.Shown
import ManifoldOpt.Tensor.Product

/-!
Numbers that leave the real line, and arrays of them. Where the shifted count of a decreasing rule is
negative, a power of it with an exponent that is no whole number lies in the complex plane, and so
does a point that is reached by a step of such a length. An array in the plane is kept as its real
and its imaginary parts; a mixed array lies on the real line or in the plane.
-/

set_option autoImplicit false

namespace ManifoldOpt

structure PlaneNumber where
  re : Float
  im : Float

namespace PlaneNumber

/-- The power of a negative base: its size, turned by the exponent's multiple of a half turn. -/
def power (base exponent : Float) : Outcome Float PlaneNumber :=
  let size := Float.pow base.abs exponent
  let angle := Float.atan2 0 base * exponent
  let value : PlaneNumber := ⟨size * Float.cos angle, size * Float.sin angle⟩
  if value.re.isInf || value.im.isInf then .error .overflow else .ok value

/-- The quotient of two numbers in the plane, scaled by the larger part of the divisor. -/
def quotient (a b : PlaneNumber) : Outcome Float PlaneNumber :=
  if b.re == 0 && b.im == 0 then .error .divisionByZero
  else if b.im.abs ≤ b.re.abs then
    let ratio := b.im / b.re
    let divisor := b.re + b.im * ratio
    .ok ⟨(a.re + a.im * ratio) / divisor, (a.im - a.re * ratio) / divisor⟩
  else if b.re.abs ≤ b.im.abs then
    let ratio := b.re / b.im
    let divisor := b.re * ratio + b.im
    .ok ⟨(a.re * ratio + a.im) / divisor, (a.im * ratio - a.re) / divisor⟩
  else .ok ⟨0 / 0, 0 / 0⟩

def neg (z : PlaneNumber) : PlaneNumber := ⟨-z.re, -z.im⟩

def partText (x : Float) : String :=
  let text := (Float.text x).toList
  String.ofList
    (if text.reverse.take 2 = ['0', '.'] then text.take (text.length - 2) else text)

def text (z : PlaneNumber) : String :=
  let imaginary := partText z.im ++ "j"
  if z.re.toBits = 0 then imaginary
  else
    let mark := if imaginary.startsWith "-" then "" else "+"
    "(" ++ partText z.re ++ mark ++ imaginary ++ ")"

def normalize (z : PlaneNumber) (norm : Float) : Outcome Float PlaneNumber :=
  if Tolerance.machine < norm then quotient z ⟨norm, 0⟩ else .ok z

end PlaneNumber

structure PlaneArray where
  re : Tensor Float
  im : Tensor Float

namespace PlaneArray

def ofReal (x : Tensor Float) : PlaneArray := ⟨x, x.zerosLike⟩

def zerosLike (x : PlaneArray) : PlaneArray := ofReal x.re.zerosLike

def add (x y : PlaneArray) : Outcome Float PlaneArray := do
  return ⟨← x.re.add y.re, ← x.im.add y.im⟩

def sub (x y : PlaneArray) : Outcome Float PlaneArray := do
  return ⟨← x.re.sub y.re, ← x.im.sub y.im⟩

def mul (x y : PlaneArray) : Outcome Float PlaneArray := do
  let re ← (← x.re.mul y.re).sub (← x.im.mul y.im)
  let im ← (← x.re.mul y.im).add (← x.im.mul y.re)
  return ⟨re, im⟩

def scale (c : Float) (x : PlaneArray) : Outcome Float PlaneArray := (ofReal (.scalar c)).mul x

def eachPart (f : Tensor Float → Outcome Float (Tensor Float)) (x : PlaneArray) :
    Outcome Float PlaneArray := do
  return ⟨← f x.re, ← f x.im⟩

def sizes (x : PlaneArray) : Outcome Float (Tensor Float) := do
  let squares ← (x.re.map Scalar.square).add (x.im.map Scalar.square)
  return squares.map Scalar.sqrt

def length (x : PlaneArray) : Outcome Float Float := do
  return (← x.sizes).length

def signs (x : PlaneArray) : Outcome Float PlaneArray := do
  let divisors := (← x.sizes).map fun size => if size == 0 then 1 else size
  x.eachPart (·.div divisors)

def nest : Shape → List PlaneNumber → Shown
  | [], entries => .ofOption (fun z => .text z.text) entries.head?
  | n :: rest, entries =>
    .items ((List.range n).map fun i => nest rest (entries.drop (i * Shape.size rest)))

def shown (x : PlaneArray) : Shown :=
  nest x.re.shape (List.zipWith PlaneNumber.mk x.re.entries x.im.entries)

end PlaneArray

inductive MixedArray
  | real (x : Tensor Float)
  | plane (x : PlaneArray)

namespace MixedArray

def shown : MixedArray → Shown
  | real x => .array x
  | plane x => x.shown

def toPlane : MixedArray → PlaneArray
  | real x => .ofReal x
  | plane x => x

def re (x : MixedArray) : Tensor Float := x.toPlane.re

def combine (onLine : Tensor Float → Tensor Float → Outcome Float (Tensor Float))
    (inPlane : PlaneArray → PlaneArray → Outcome Float PlaneArray) :
    MixedArray → MixedArray → Outcome Float MixedArray
  | real x, real y => do
    return real (← onLine x y)
  | x, y => do
    return plane (← inPlane x.toPlane y.toPlane)

def add : MixedArray → MixedArray → Outcome Float MixedArray := combine Tensor.add PlaneArray.add

def mul : MixedArray → MixedArray → Outcome Float MixedArray := combine Tensor.mul PlaneArray.mul

def scale (c : Float) : MixedArray → Outcome Float MixedArray
  | real x => .ok (real (x.scale c))
  | plane x => do
    return plane (← x.scale c)

def length : MixedArray → Outcome Float Float
  | real x => .ok x.length
  | plane x => x.length

def alongCircle (p v : MixedArray) : Outcome Float MixedArray := do
  let angle ← v.length
  if angle < Tolerance.epsilon then p.add v
  else
    let unit ← v.scale (1 / angle)
    (← p.scale (Float.cos angle)).add (← unit.scale (Float.sin angle))

def ontoSphere (p v : MixedArray) : Outcome Float MixedArray := do
  let y ← p.add v
  y.scale (1 / (← y.length))

end MixedArray

def PlaneNumber.toArray (z : PlaneNumber) : MixedArray := .plane ⟨.scalar z.re, .scalar z.im⟩

end ManifoldOpt
