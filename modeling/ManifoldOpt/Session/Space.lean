import ManifoldOpt.Manifold.Basic
import ManifoldOpt.Session.Creation
import ManifoldOpt.Session.Operand

set_option autoImplicit false

namespace ManifoldOpt

structure Computed where
  shown : Shown
  value : Shown := shown

def Number.zeroLike : Number Float → Number Float
  | .bool _ => .bool false
  | .int _ => .int 0
  | .real _ => .real 0

namespace Computed

def array (x : Tensor Float) : Computed := { shown := .array x }

def flag (b : Bool) : Computed := { shown := .flag b }

def shownOnly (s : Shown) : Computed := { shown := s, value := .nothing }

def areUnit (x : Tensor Float) : Outcome Float Bool := do
  let sums ← (x.map Scalar.square).sumLast
  return sums.entries.all fun s => (s.sqrt - 1).abs < 1e-5

def sample (x : Tensor Float) (unit tangent : Shown) : Computed where
  shown := .fields [("shape", .ofShape x.shape), ("repeatable", .flag (x.entries == x.entries)),
    ("finite", .flag x.allFinite), ("unit", unit), ("tangent", tangent)]
  value := .array x

def operand : Outcome Float Computed → Operand
  | .ok c => .ofShown c.value
  | .error _ => .missing

end Computed

structure Space where
  kind : SpaceKind
  manifold : Manifold Float
  extra : List (String × Shown) := []

namespace Space

variable (S : Space)

def property (name : String) : Outcome Float Shown := do
  match name, S.manifold.shape, S.manifold.ambientDimension with
  | "dimension", _, _ => return .ofNumber (← S.manifold.dimension)
  | "shape", some shape, _ => return .items (shape.map .ofNumber)
  | "ambient_dimension", _, some n => return .ofNumber n
  | "default_retraction_method", _, _ => return .text S.manifold.defaultRetraction.name
  | "default_vector_transport_method", _, _ => return .text S.manifold.defaultTransport.name
  | name, _, _ =>
    match S.extra.lookup name with
    | some value => return value
    | none => throw .noAttribute

def read (o : Operands) (op : Operation) (role : Role) (name : String) :
    Outcome Float (Tensor Float) :=
  o.read name (S.kind.reading op role)

def moved (o : Operands) (op : Operation) (move : Tensor Float → Tensor Float →
    Outcome Float (Tensor Float)) (v : Tensor Float) : Outcome Float (Tensor Float) := do
  move (← S.read o op .point "x") v

def project (o : Operands) (point : String) : Outcome Float (Tensor Float) := do
  let x ← S.read o .project .point point
  S.manifold.project x (← S.read o .project .vector "v")

def transp (o : Operands) : Outcome Float (Tensor Float) := do
  let x ← S.read o .transp .point "x"
  let y ← S.read o .transp .target "y"
  S.manifold.transp x y (← S.read o .transp .vector "v")

def inner (o : Operands) (u : String) : Outcome Float (Tensor Float) := do
  let x ← S.read o .inner .point "x"
  let left ← S.read o .inner .vector u
  S.manifold.inner x left (← S.read o .inner .vector "v")

def retract (o : Operands) : Outcome Float (Tensor Float) := do
  match ← S.manifold.retraction (o.literal "method") with
  | .exponential => S.moved o .exp S.manifold.exp (← o.scaledVector)
  | .projection => S.moved o .retr S.manifold.retr (← o.scaledVector)

def transport (o : Operands) : Outcome Float (Tensor Float) := do
  match ← S.manifold.transportMethod (o.literal "method") with
  | .parallel => S.transp o
  | .projection => S.project o "y"

def coordinates (o : Operands) : Outcome Float (Tensor Float) := do
  match ← o.basis with
  | some basis => S.manifold.coordinates (.scalar 0) (← o.taken "v") (some basis)
  | none =>
    let x ← S.read o .basis .point "x"
    S.manifold.coordinates x (← o.taken "v") none

def vector (o : Operands) : Outcome Float (Tensor Float) := do
  match ← o.basis with
  | some basis => S.manifold.vector (.scalar 0) (← o.taken "c") (some basis)
  | none =>
    let x ← S.read o .basis .point "x"
    S.manifold.vector x (← o.taken "c") none

def reflected (o : Operands) : Outcome Float (Tensor Float) := do
  let x ← S.read o .log .target "x"
  let center ← match o.center with
    | some f => f x
    | none => S.read o .log .point "p"
  reflect S.manifold center x (o.literal "method")

def checkDifference (o : Operands) : Outcome Float Unit :=
  match S.kind, (o.operand "x").truth?, (o.operand "y").truth? with
  | .plain, _, _ => .ok ()
  | _, some _, some _ => .error .notNumber
  | _, _, _ => .ok ()

def compute (o : Operands) (name : String) : Outcome Float (Tensor Float) := do
  let M := S.manifold
  match name with
  | "proj" => S.project o "x"
  | "exp" => S.moved o .exp M.exp (← S.read o .exp .vector "v")
  | "retr" => S.moved o .retr M.retr (← S.read o .retr .vector "v")
  | "log" =>
    S.checkDifference o
    let x ← S.read o .log .point "x"
    M.log x (← S.read o .log .target "y")
  | "dist" =>
    S.checkDifference o
    let x ← S.read o .dist .point "x"
    M.dist x (← S.read o .dist .target "y")
  | "transp" => S.transp o
  | "inner" => S.inner o "u"
  | "norm" =>
    let square ← S.inner o "v"
    return square.map Scalar.sqrt
  | "zero_vector" => return (← o.taken "x").zerosLike
  | "copy" => o.converted "x"
  | "copyto" =>
    let x ← o.converted "x"
    copyTo x (← o.converted "y")
  | "get_basis" => M.basis (← S.read o .basis .point "x")
  | "get_coordinates" => S.coordinates o
  | "get_vector" => S.vector o
  | "retract" => S.retract o
  | "vector_transport" => S.transport o
  | "reflect" => S.reflected o
  | _ => throw .noAttribute

def whole? (o : Operands) (name : String) : Option (Number Float) :=
  let given (name : String) : Option (Number Float) :=
    match o.operand name with
    | .number (.real _) => none
    | .number n => some n
    | _ => none
  let sum : Option (Number Float) := do
    return .bool ((← (o.operand "x").truth?) || (← (o.operand "v").truth?))
  match name, S.kind with
  | "copy", _ => given "x"
  | "copyto", _ => given "y"
  | "zero_vector", _ => (given "x").map Number.zeroLike
  | "exp", .euclidean => sum
  | "exp", .weighted => sum
  | "retr", .euclidean => sum
  | "retr", .weighted => sum
  | "proj", .euclidean => given "v"
  | "proj", .weighted => given "v"
  | "transp", .euclidean => given "v"
  | "transp", .weighted => given "v"
  | "vector_transport", .euclidean => given "v"
  | "vector_transport", .weighted => given "v"
  | _, _ => none

def value (o : Operands) (name : String) : Outcome Float Computed := do
  let x ← S.compute o name
  return (S.whole? o name).elim (.array x) fun n => { shown := .ofNumber n }

def tolerance (o : Operands) : Outcome Float Float :=
  match S.kind, o.literal "atol" (.real Tolerance.validation) with
  | .sphere, given => given.factor
  | .plain, .none => .error .missingArray
  | .plain, given => given.factor
  | _, _ => .ok Tolerance.validation

def isPoint (o : Operands) : Outcome Float Bool := do
  match S.kind with
  | .euclidean => S.manifold.isPoint (← S.tolerance o) (← o.converted "x")
  | .weighted => S.manifold.isPoint (← S.tolerance o) (← o.converted "x")
  | .sphere =>
    let x ← o.taken "x"
    S.manifold.isPoint (← S.tolerance o) x
  | _ => S.manifold.isPoint Tolerance.validation (.scalar 0)

def isTangent (o : Operands) : Outcome Float Bool := do
  match S.kind with
  | .sphere =>
    if ← S.isPoint o then
      let x ← o.taken "x"
      let v ← o.taken "v"
      S.manifold.isTangent (← S.tolerance o) x v
    else return false
  | .abstract => S.manifold.isTangent Tolerance.validation (.scalar 0) (.scalar 0)
  | _ =>
    let v ← o.converted "v"
    let _ ← S.manifold.project (.scalar 0) v
    S.manifold.isTangent (← S.tolerance o) (.scalar 0) v

def samplePoint (o : Operands) : Outcome Float Computed := do
  let seed ← o.seed
  let x ← S.manifold.randomPoint seed (← o.shape)
  let unit ← if S.kind = .sphere then do pure (Shown.flag (← Computed.areUnit x))
    else pure .nothing
  return .sample x unit .nothing

def sampleTangent (o : Operands) : Outcome Float Computed := do
  let seed ← o.seed
  let shape ← o.shape
  let p ← match S.kind, o.operand "x" with
    | _, .array p => pure p
    | .plain, _ => pure (.scalar 0)
    | .abstract, _ => pure (.scalar 0)
    | kind, _ =>
      if (shape.getD []).isEmpty then throw .noAttribute
      else if kind = .sphere then throw .notNumber else pure (.scalar 0)
  let v ← S.manifold.randomTangent seed p shape
  let tangent ← if v.rank = 1 then do pure (Shown.flag (← S.manifold.isTangent 1e-6 p v))
    else pure .nothing
  return .sample v .nothing tangent

def operate (o : Operands) (name : String) : Outcome Float Computed := do
  match name with
  | "get_vectors" =>
    match o.operand "basis" with
    | .array basis => return { shown := .items ((← basis.slices).map .array) }
    | _ => throw .noAttribute
  | "validate_point" => return .flag (← S.isPoint o)
  | "validate_tangent" => return .flag (← S.isTangent o)
  | "random_point" => S.samplePoint o
  | "random_tangent" => S.sampleTangent o
  | "repr" => return .shownOnly (.text S.manifold.label)
  | other => S.value o other

end Space

inductive BundleKind
  | tangent
  | trivial
  | abstract
  deriving DecidableEq, Repr

structure BundleSpace where
  kind : BundleKind
  base : Space
  bundle : Bundle Float

namespace BundleSpace

variable (B : BundleSpace)

def property (name : String) : Outcome Float Shown := do
  match name, B.bundle.fiberShape with
  | "manifold", _ => return .text B.base.manifold.label
  | "fiber_dimension", _ => return .ofNumber (← B.bundle.fiberDimension)
  | "fiber_shape", some shape => return .items (shape.map .ofNumber)
  | "default_vector_transport_method", _ => return .text B.bundle.defaultTransport.name
  | _, _ => throw .noAttribute

def names : List String :=
  ["zero_vector", "get_basis", "get_coordinates", "get_vector", "norm", "vector_transport"]

/-- An operation of a bundle whose fibers are the same everywhere; base points are not looked at. -/
def computeTrivial (o : Operands) (name : String) : Outcome Float (Tensor Float) := do
  let nowhere : Tensor Float := .scalar 0
  match name with
  | "zero_vector" => B.bundle.zero nowhere
  | "get_basis" => B.bundle.basis nowhere
  | "get_coordinates" =>
    let basis ← o.basis
    B.bundle.coordinates nowhere (← o.taken "v") basis
  | "get_vector" =>
    let basis ← o.basis
    B.bundle.vector nowhere (← o.taken "c") basis
  | "norm" => B.bundle.norm nowhere (← o.taken "v")
  | _ =>
    let _ ← B.bundle.transport nowhere nowhere nowhere (o.literal "method")
    o.converted "v"

def computeAbstract (name : String) : Outcome Float (Tensor Float) :=
  let nowhere : Tensor Float := .scalar 0
  match name with
  | "zero_vector" => B.bundle.zero nowhere
  | "get_basis" => B.bundle.basis nowhere
  | "get_coordinates" => B.bundle.coordinates nowhere nowhere none
  | "get_vector" => B.bundle.vector nowhere nowhere none
  | "norm" => B.bundle.norm nowhere nowhere
  | _ => B.bundle.transport nowhere nowhere nowhere .none

def operate (o : Operands) (name : String) : Outcome Float Computed := do
  if name = "repr" then return .shownOnly (.text B.bundle.label)
  if !names.contains name then throw .noAttribute
  match B.kind with
  | .tangent => B.base.value o name
  | .trivial => return .array (← B.computeTrivial o name)
  | .abstract => return .array (← B.computeAbstract name)

end BundleSpace

end ManifoldOpt
