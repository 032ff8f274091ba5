import ManifoldOpt.Manifold.Bundle
import ManifoldOpt.Manifold.Euclidean
import ManifoldOpt.Manifold.Extent
import ManifoldOpt.Manifold.Sphere
import ManifoldOpt.Session.Shown

set_option autoImplicit false

namespace ManifoldOpt

def Number.axis (n : Number Float) : Outcome Float Nat :=
  match n.int? with
  | none => .error .notNumber
  | some k => if Number.fitsWord k then .ok k.toNat else .error .overflow

def Sample.requested (reason : Fault Float) (seed : Int) :
    Option Shape → Outcome Float (Tensor Float)
  | none => .error reason
  | some [] => .error reason
  | some shape => .ok (Sample.normal seed shape)

def givenBasis {β : Type} (reason : Fault Float) (use : Tensor Float → Outcome Float β) :
    Option (Tensor Float) → Outcome Float β
  | none => .error reason
  | some basis => use basis

def unboundedSphere (reason : Fault Float) : Manifold Float :=
  { sphere 0 with
    basis := fun x => do
      let _ ← x.zerosLike.setLast 1
      throw reason
    coordinates := fun _ v => givenBasis reason fun basis => Tensor.coordinates basis v.ravel
    vector := fun _ c => givenBasis reason (Tensor.combine c)
    randomPoint := fun seed shape => do
      Sphere.normalizeLast (← Sample.requested reason seed shape) }

def sphereOf (n : Number Float) : Outcome Float (Manifold Float) := do
  let ambient ← n.add (.int 1)
  let S := match n.axis with
    | .ok n => sphere n
    | .error reason => unboundedSphere reason
  return { S with
    label := "Sphere(" ++ n.text ++ ")"
    dimension := .ok n
    ambientDimension := some ambient }

def hasExtents (extents : List (Number Float)) (x : Tensor Float) : Bool :=
  x.rank = extents.length && (x.shape.zip extents).all fun axis => axis.2.same (.int axis.1)

def extentsText (extents : List (Number Float)) : String :=
  (Literal.tuple (extents.map Number.literal)).text

def extentProduct (extents : List (Number Float)) : Outcome Float (Number Float) :=
  extents.foldlM Number.mul (.int 1)

def unboundedEuclidean (reason : Fault Float) (extents : List (Number Float)) : Manifold Float :=
  let isElement (x : Tensor Float) : Bool := hasExtents extents x && x.allFinite
  { euclidean [] with
    basis := fun _ => .error reason
    vector := fun _ c => givenBasis .notNumber (Tensor.combine c)
    randomPoint := Sample.requested reason
    isPoint := fun _ x => .ok (isElement x)
    isTangent := fun _ _ v => .ok (isElement v) }

def euclideanOf (extents : List (Number Float)) : Manifold Float :=
  let E := match extents.mapM Number.axis with
    | .ok shape => euclidean shape
    | .error reason => unboundedEuclidean reason extents
  { E with
    label := "Euclidean" ++ extentsText extents
    dimension := extentProduct extents
    shape := some extents }

def weightedOf (extents : List (Number Float)) : Manifold Float :=
  { euclideanOf extents with typeName := "Weighted", inner := weightedInner }

def plainOf (n w : Literal Float) : Manifold Float :=
  let basis : Outcome Float (Tensor Float) :=
    match n.number?.bind Number.int? with
    | none => .error .notNumber
    | some n => if n < 0 then .error .missingArray else
      if Number.fitsWord n then .ok (Tensor.identity n.toNat) else .error .overflow
  { plain 0 0 with
    inner := fun _ u v => do
      let products ← u.mul v
      return .scalar (Scalar.product (← w.factor) products.total)
    basis := fun _ => basis
    dist := fun x y => do
      let d ← y.sub x
      let products ← d.mul d
      return .scalar (Scalar.sqrt (Scalar.product (← w.factor) products.total))
    coordinates := fun _ v given => do
      Tensor.coordinates (← given.elim basis .ok) v.ravel
    vector := fun _ c given => do
      Tensor.combine c (← given.elim basis .ok) }

def trivialOf (M : Manifold Float) (extents : List (Number Float)) : Bundle Float :=
  let counted : Bundle Float :=
    match extents.mapM Number.axis with
    | .ok shape => Bundle.trivial M shape
    | .error reason =>
      { Bundle.trivial M [] with
        zero := fun _ => .error reason
        basis := fun _ => .error reason
        vector := fun _ c => givenBasis .notNumber (Tensor.combine c) }
  { counted with
    label := "TrivialBundle(" ++ M.label ++ ", " ++ extentsText extents ++ ")"
    fiberDimension := extentProduct extents
    fiberShape := some extents }

def Extent.shown (extent : Extent Float) : Shown := .ofLiteral extent.literal

def Extent.tupleText (extents : List (Extent Float)) : String :=
  (Literal.tuple (extents.map Extent.literal)).text

def shownSphere (n : Extent Float) : Outcome Float Shown := do
  let ambient ← n.add (.number (.int 1))
  return .fields [("repr", .text ("Sphere(" ++ n.literal.display ++ ")")),
    ("dimension", n.shown), ("ambient_dimension", ambient.shown)]

def shownExtents (before after name : String) (extents : List (Extent Float)) :
    Outcome Float Shown := do
  return .fields [("repr", .text (before ++ Extent.tupleText extents ++ after)),
    ("dimension", (← Extent.product extents).shown), (name, .items (extents.map Extent.shown))]

end ManifoldOpt
