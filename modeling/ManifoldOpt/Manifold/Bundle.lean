import ManifoldOpt.Manifold.Euclidean

set_option autoImplicit false

namespace ManifoldOpt

variable {α : Type} [Scalar α]

structure Bundle (α : Type) where
  label : String
  fiberDimension : Outcome α (Number α) := .error (.unimplemented .fiberDimension)
  fiberShape : Option (List (Number α)) := none
  zero : Tensor α → Outcome α (Tensor α) := fun _ => .error (.unimplemented .fiberZero)
  basis : Tensor α → Outcome α (Tensor α) := fun _ => .error (.unimplemented .fiberBasis)
  coordinates : Tensor α → Tensor α → Option (Tensor α) → Outcome α (Tensor α) :=
    fun _ _ _ => .error (.unimplemented .fiberCoordinates)
  vector : Tensor α → Tensor α → Option (Tensor α) → Outcome α (Tensor α) :=
    fun _ _ _ => .error (.unimplemented .fiberVector)
  norm : Tensor α → Tensor α → Outcome α (Tensor α) :=
    fun _ _ => .error (.unimplemented .fiberNorm)
  transport : Tensor α → Tensor α → Tensor α → Literal α → Outcome α (Tensor α) :=
    fun _ _ _ _ => .error (.unimplemented .fiberTransport)
  defaultTransport : Transport := .parallel

namespace Bundle

def abstract (M : Manifold α) : Bundle α := { label := "VectorBundle(" ++ M.label ++ ")" }

def tangent (M : Manifold α) : Bundle α where
  label := "TangentBundle(" ++ M.label ++ ")"
  fiberDimension := M.dimension
  zero p := .ok p.zerosLike
  basis := M.basis
  coordinates := M.coordinates
  vector := M.vector
  norm := M.norm
  transport := M.transport
  defaultTransport := M.defaultTransport

/-- The product with the arrays of one shape; fibers are identified, so that transport is the
identity. -/
def trivial (M : Manifold α) (shape : Shape) : Bundle α where
  label := "TrivialBundle(" ++ M.label ++ ", " ++ Shape.text shape ++ ")"
  fiberDimension := .ok (.int shape.size)
  fiberShape := some (shape.map fun n : Nat => .int n)
  zero _ := .ok (Tensor.zeros shape)
  basis _ := .ok (standardBasis shape)
  coordinates _ v
    | none => .ok v.ravel
    | some basis => Tensor.coordinates basis v.ravel
  vector _ c
    | none => c.reshape shape
    | some basis => Tensor.combine c basis
  norm _ v := .ok (.scalar v.length)
  transport _ _ v
    | .none => .ok v
    | .transport _ => .ok v
    | other => .error (.unsupportedTransport other "TrivialBundle")

end Bundle

end ManifoldOpt
