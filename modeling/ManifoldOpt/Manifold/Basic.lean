import ManifoldOpt.Constants
import ManifoldOpt.Parameter
import ManifoldOpt.Tensor.Product

/-!
What the solvers know of a manifold: how to project onto tangent spaces, walk along geodesics and
back, carry tangent vectors, measure them, and write them in coordinates. Operations that a manifold
does not provide fail; those that follow from others have that as their default.
-/

set_option autoImplicit false

namespace ManifoldOpt

variable {α : Type} [Scalar α]

/-- Numbers are near if they differ by little relative to the second one, which is finite, or if
they are equal. -/
def isNear (absolute a b : α) : Bool :=
  (Scalar.isFinite b && decide (Scalar.abs (a - b) ≤ absolute + 1e-5 * Scalar.abs b)) ||
    Scalar.same a b

structure Manifold (α : Type) [Scalar α] where
  typeName : String
  label : String := typeName ++ "()"
  dimension : Outcome α (Number α) := .error (.unimplemented .manifoldDimension)
  shape : Option (List (Number α)) := none
  ambientDimension : Option (Number α) := none
  project : Tensor α → Tensor α → Outcome α (Tensor α) :=
    fun _ _ => .error (.unimplemented .projection)
  /-- How it fails to project where no vector is given. -/
  projectNothing : Fault α := .missingArray
  exp : Tensor α → Tensor α → Outcome α (Tensor α) :=
    fun _ _ => .error (.unimplemented .exponential)
  log : Tensor α → Tensor α → Outcome α (Tensor α) :=
    fun _ _ => .error (.unimplemented .logarithm)
  retr : Tensor α → Tensor α → Outcome α (Tensor α) :=
    fun _ _ => .error (.unimplemented .retraction)
  transp : Tensor α → Tensor α → Tensor α → Outcome α (Tensor α) :=
    fun _ _ _ => .error (.unimplemented .parallelTransport)
  inner : Tensor α → Tensor α → Tensor α → Outcome α (Tensor α) :=
    fun _ _ _ => .error (.unimplemented .innerProduct)
  basis : Tensor α → Outcome α (Tensor α) := fun _ => .error (.unimplemented .tangentBasis)
  dist : Tensor α → Tensor α → Outcome α (Tensor α) := fun x y => do
    let v ← log x y
    let s ← inner x v v
    return s.map Scalar.sqrt
  coordinates : Tensor α → Tensor α → Option (Tensor α) → Outcome α (Tensor α) :=
    fun x v given => do
      let b ← given.elim (basis x) .ok
      Tensor.coordinates b v.ravel
  vector : Tensor α → Tensor α → Option (Tensor α) → Outcome α (Tensor α) :=
    fun x c given => do
      let b ← given.elim (basis x) .ok
      Tensor.combine c b
  /-- A point drawn with the given seed, or an array of them of a given shape. -/
  randomPoint : Int → Option Shape → Outcome α (Tensor α) :=
    fun _ _ => .error (.unimplemented .randomPoint)
  randomTangent : Int → Tensor α → Option Shape → Outcome α (Tensor α) :=
    fun _ _ _ => .error (.unimplemented .randomTangent)
  isPoint : α → Tensor α → Outcome α Bool :=
    fun _ _ => .error (.unimplemented .pointValidation)
  isTangent : α → Tensor α → Tensor α → Outcome α Bool := fun absolute x v => do
    let w ← project x v
    let near ← Tensor.pointwise (fun a b => if isNear absolute a b then 1 else 0) v w
    return near.entries.all fun a => decide (0 < a)
  defaultRetraction : Retraction := .exponential
  defaultTransport : Transport := .parallel

namespace Manifold

def abstract : Manifold α :=
  { typeName := "Manifold", projectNothing := .unimplemented .projection }

variable (M : Manifold α)

def norm (x v : Tensor α) : Outcome α (Tensor α) := do
  let s ← M.inner x v v
  return s.map Scalar.sqrt

def normNumber (x v : Tensor α) : Outcome α α := do
  let n ← M.norm x v
  n.number

def distNumber (x y : Tensor α) : Outcome α α := do
  let d ← M.dist x y
  d.number

def retractBy (m : Retraction) (x v : Tensor α) : Outcome α (Tensor α) :=
  match m with
  | .exponential => M.exp x v
  | .projection => M.retr x v

def retraction (method : Literal α) : Outcome α Retraction :=
  match method with
  | .none => .ok M.defaultRetraction
  | .retraction m => .ok m
  | other => .error (.unsupportedRetraction other M.typeName)

def retract (x v : Tensor α) (method : Literal α) : Outcome α (Tensor α) := do
  M.retractBy (← M.retraction method) x v

def transportBy (m : Transport) (x y v : Tensor α) : Outcome α (Tensor α) :=
  match m with
  | .parallel => M.transp x y v
  | .projection => M.project y v

def transportMethod (method : Literal α) : Outcome α Transport :=
  match method with
  | .none => .ok M.defaultTransport
  | .transport m => .ok m
  | other => .error (.unsupportedTransport other M.typeName)

def transport (x y v : Tensor α) (method : Literal α) : Outcome α (Tensor α) := do
  M.transportBy (← M.transportMethod method) x y v

end Manifold

/-- The geodesic from the centre to the point is walked in the opposite direction. -/
def reflect (M : Manifold α) (center x : Tensor α) (method : Literal α) :
    Outcome α (Tensor α) := do
  let v ← M.log center x
  M.retract center (v.scale (-1)) method

def copyTo (dst src : Tensor α) : Outcome α (Tensor α) :=
  if dst.shape = src.shape then .ok src
  else .error (.shapeMismatch "copyto" 1 dst.shape src.shape)

def checkShapes (operation : String) (arrays : List (Tensor α)) : Outcome α Unit :=
  match arrays with
  | [] => .ok ()
  | first :: rest =>
    match rest.findIdx? (fun x => x.shape ≠ first.shape) with
    | none => .ok ()
    | some i =>
      .error (.shapeMismatch operation (i + 1) first.shape ((rest.getD i first).shape))

end ManifoldOpt
