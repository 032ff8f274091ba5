import ManifoldOpt.Manifold.Basic
import ManifoldOpt.Tensor.Broadcast

set_option autoImplicit false

namespace ManifoldOpt

namespace Sample

def advance (s : Nat) : Nat := (s * 6364136223846793005 + 1442695040888963407) % Nat.pow 2 64

def stream : Nat → Nat → List Nat
  | 0, _ => []
  | count + 1, s => s / Nat.pow 2 33 :: stream count (advance s)

variable {α : Type} [Scalar α]

def uniform (n : Nat) : α := Scalar.ofNat n / Scalar.ofNat (Nat.pow 2 31)

def normalFrom (parts : List Nat) : α :=
  (parts.map uniform).foldl (· + ·) 0 - Scalar.ofNat 6

def normal (seed : Int) (shape : Shape) : Tensor α :=
  let start := advance (advance (seed.natAbs * 2 + (if seed < 0 then 1 else 0)))
  let draws := (stream (12 * shape.size) start).toArray
  Tensor.tabulate shape fun i => normalFrom (draws.extract (12 * i) (12 * i + 12)).toList

end Sample

variable {α : Type} [Scalar α]

def standardBasis (shape : Shape) : Tensor α :=
  Tensor.tabulate (shape.size :: shape) fun i =>
    if i / shape.size = i % shape.size then 1 else 0

def sampleShape (own : Shape) : Option Shape → Shape
  | none => own
  | some [] => own
  | some shape => shape

def euclidean (shape : Shape) : Manifold α where
  typeName := "Euclidean"
  label := "Euclidean" ++ Shape.text shape
  dimension := .ok (.int shape.size)
  shape := some (shape.map fun n : Nat => .int n)
  project _ v := .ok v
  exp x v := x.add v
  log x y := y.sub x
  retr x v := x.add v
  transp _ _ v := .ok v
  inner _ u v := do
    let products ← u.mul v
    return .scalar products.total
  basis _ := .ok (standardBasis shape)
  dist x y := do
    let d ← y.sub x
    return .scalar d.length
  coordinates _ v
    | none => .ok v.ravel
    | some basis => Tensor.coordinates basis v.ravel
  vector _ c
    | none => c.reshape shape
    | some basis => Tensor.combine c basis
  randomPoint seed given := .ok (Sample.normal seed (sampleShape shape given))
  randomTangent seed x given := .ok (Sample.normal seed (sampleShape x.shape given))
  isPoint _ x := .ok (x.shape = shape && x.allFinite)
  isTangent _ _ v := .ok (v.shape = shape && v.allFinite)

def weightedInner (x u v : Tensor α) : Outcome α (Tensor α) := do
  match ← x.slices with
  | [] => throw .missingAxis
  | first :: _ =>
    let products ← u.dot v
    (first.map Scalar.square).mul products

/-- Arrays whose lengths grow with the first entry of the point; distances stay flat. -/
def weighted (shape : Shape) : Manifold α :=
  { euclidean shape with typeName := "Weighted", inner := weightedInner }

def plain (n : Nat) (weight : α) : Manifold α where
  typeName := "Plain"
  project _ v := v.setLast 0
  exp x v := x.add v
  log x y := y.sub x
  inner _ u v := do
    let products ← u.mul v
    return .scalar (Scalar.product weight products.total)
  basis _ := .ok (Tensor.identity n)

end ManifoldOpt
