import ManifoldOpt.Fault
import ManifoldOpt.Text.Literal

set_option autoImplicit false

namespace ManifoldOpt

inductive ErrorKind
  | manifold | dimension | numericalStability | unsupportedMethod
  | solver | configuration | degeneracy | damping
  | unimplemented | wrongType | wrongValue | missingKey | missingIndex | missingAttribute
  | divisionByZero | overflow | callback | readOnly
  deriving DecidableEq, Repr

structure Report where
  kind : ErrorKind
  message : Option String := none
  attributes : List (String × Literal Float) := []

namespace Task

def message : Task → String
  | projection => "Subclasses must implement projection operation"
  | exponential => "Subclasses must implement exponential map"
  | logarithm => "Subclasses must implement logarithmic map"
  | retraction => "Subclasses must implement retraction"
  | parallelTransport => "Subclasses must implement parallel transport"
  | innerProduct => "Subclasses must implement Riemannian inner product"
  | tangentBasis => "Subclasses must implement tangent space bases"
  | randomPoint => "Subclasses must implement random point generation"
  | randomTangent => "Subclasses must implement random tangent generation"
  | pointValidation => "Point validation not implemented"
  | manifoldDimension => "Subclasses must define manifold dimension"
  | fiberDimension => "Subclasses must define the fiber dimension"
  | fiberZero => "Subclasses must implement fiber zero vectors"
  | fiberBasis => "Subclasses must implement fiber bases"
  | fiberCoordinates => "Subclasses must implement fiber coordinates"
  | fiberVector => "Subclasses must implement fiber vectors"
  | fiberNorm => "Subclasses must implement fiber norms"
  | fiberTransport => "Subclasses must implement fiber transports"
  | stepsizeRule => "Subclasses must implement the stepsize rule"
  | stoppingCheck => "Subclasses must implement the stopping check"
  | solverStep => "Subclasses must implement the solver step"
  | exposeIterate => "Subclasses must expose their iterate"
  | replaceIterate => "Subclasses must allow setting their iterate"
  | exposeDirection => "Subclasses must expose their search direction"

end Task

def fieldNames (fields : List Field) : Literal Float := .list (fields.map fun f => .string f.name)

namespace Constraint

def message : Constraint Float → String
  | nonNegative => "must be non-negative"
  | positive => "must be positive"
  | atLeastOne => "must be at least 1"
  | atLeastDesired desired => "must be at least theta_des=" ++ desired.text
  | stepKind => "must be 'relative' or 'absolute'"
  | recordable => "fields must be among " ++ (fieldNames Field.all).text
  | linearMethod => "must be 'direct', 'bicgstab' or 'gmres'"
  | subproblemRequired => "a sub-problem computing the Newton direction is required"
  | substateRequired =>
    "a sub-solver state or an evaluation type for the sub-problem is required"
  | callable => "must be callable for closed form sub-problems"
  | linearizable =>
    "must provide linearize_at(problem, state) when solved by a sub-state"
  | substateKind => "must be a SolverState or an EvaluationType"

end Constraint

namespace Report

def manifold (message : String) : Report := ⟨.manifold, some message, []⟩

def dimension (message expected actual : Literal Float) : Report where
  kind := .dimension
  message := some (match expected, actual with
    | .none, _ => message.display
    | _, .none => message.display
    | expected, actual => message.display ++ " (expected=" ++ expected.display ++
        ", actual=" ++ actual.display ++ ")")
  attributes := [("expected", expected), ("actual", actual)]

def numericalStability (message condition norm action : Literal Float) : Report where
  kind := .numericalStability
  message := some message.display
  attributes :=
    [("condition_number", condition), ("matrix_norm", norm), ("recommended_action", action)]

def unsupportedMethod (message method space : Literal Float) : Report where
  kind := .unsupportedMethod
  message := some message.display
  attributes := [("method", method), ("manifold_type", space)]

def solver (message : String) : Report := ⟨.solver, some message, []⟩

def configuration (parameter value constraint : Literal Float) : Report where
  kind := .configuration
  message := some ("Parameter '" ++ parameter.display ++ "' with value " ++ value.text ++
    " violates constraint: " ++ constraint.display ++ ".")
  attributes :=
    [("parameter_name", parameter), ("parameter_value", value), ("constraint", constraint)]

def degeneracy (message iteration value : Literal Float) : Report where
  kind := .degeneracy
  message := some message.display
  attributes := [("iteration", iteration), ("value", value)]

def damping (message iteration alpha theta trials : Literal Float) : Report where
  kind := .damping
  message := some message.display
  attributes := [("iteration", iteration), ("value", alpha), ("alpha", alpha), ("theta", theta),
    ("trials", trials)]

def worded (kind : ErrorKind) (message : String) : Report := ⟨kind, some message, []⟩

def unsupported (what : String) (method : Literal Float) (space : String) : Report :=
  unsupportedMethod (.string ("Unsupported " ++ what ++ " method " ++ method.text)) method
    (.string space)

end Report

namespace Fault

def report : Fault Float → Report
  | shapeClash => ⟨.wrongType, none, []⟩
  | bufferClash => ⟨.wrongValue, none, []⟩
  | missingArray => ⟨.wrongValue, none, []⟩
  | notNumber => ⟨.wrongType, none, []⟩
  | missingAxis => ⟨.missingIndex, none, []⟩
  | ambiguous => ⟨.wrongValue, none, []⟩
  | noAttribute => ⟨.missingAttribute, none, []⟩
  | unknownName => ⟨.wrongValue, none, []⟩
  | divisionByZero => ⟨.divisionByZero, none, []⟩
  | overflow => ⟨.overflow, none, []⟩
  | argumentCount => ⟨.wrongType, none, []⟩
  | unimplemented task => .worded .unimplemented task.message
  | shapeMismatch operation position expected actual =>
    .dimension (.string ("Shape mismatch in " ++ operation ++ " at array " ++ toString position))
      (.shape expected) (.shape actual)
  | fiberMismatch expected actual =>
    .dimension (.string "Newton equation needs fibers of the manifold's dimension")
      expected.literal actual.literal
  | illConditioned operation condition norm =>
    .numericalStability (.string ("Matrix is ill-conditioned for operation '" ++ operation ++ "'"))
      (.real condition) (.real norm)
      (.string ("Check the derivative passed to " ++ operation ++ " or regularize the system"))
  | unsupportedRetraction method space => .unsupported "retraction" method space
  | unsupportedTransport method space => .unsupported "vector transport" method space
  | notLinearized => .solver "NewtonEquationSubproblem used before linearize_at was called"
  | configuration parameter value constraint =>
    .configuration (.string parameter) value (.string constraint.message)
  | noFiniteSolution =>
    .degeneracy
      (.string "The Newton equation has no finite solution, the derivative is singular") .none .none
  | dampingFailed iteration alpha theta trials =>
    .damping
      (.string ("Affine covariant damping failed in iteration " ++ toString iteration ++ ": theta=" ++
        Float.brief theta ++ " after " ++ toString trials ++ " trials with alpha=" ++
        Float.brief alpha))
      (.int iteration) (.real alpha) (.real theta) (.int trials)
  | callback message => .worded .callback message
  | noRecorder solver => .worded .missingKey ("No recorder attached to " ++ solver ++ " state")
  | notRecorded field fields =>
    .worded .missingKey ("Field '" ++ field ++ "' was not recorded, recorded fields are " ++
      (fieldNames fields).text)
  | forgottenBuffer name =>
    .worded .wrongType ("In-place callback " ++ name ++ " returned None; JAX arrays are " ++
      "immutable, return the filled buffer, e.g. out.at[:].set(value)")
  | readOnly field => .worded .readOnly ("cannot assign to field '" ++ field ++ "'")
  | sphereExtentKind given =>
    .worded .wrongType ("Sphere dimension must be an integer, got " ++
      (Literal.kind given.kindName).text)
  | sphereExtent given =>
    .worded .wrongValue ("Sphere dimension must be positive, got " ++ given.display)
  | euclideanExtentKind given =>
    .worded .wrongType ("Euclidean dimensions must be integers, got " ++
      (Literal.tuple given).text)
  | euclideanExtent given =>
    .worded .wrongValue ("Euclidean dimensions must be positive, got " ++
      (Literal.tuple given).text)
  | noExtent => .worded .wrongValue "Euclidean space needs at least one dimension"
  | fiberExtent given =>
    .worded .wrongValue ("Fiber shape must be non-empty and positive, got " ++
      (Literal.tuple given).text)
  | unfinished => .solver "The allowance of iterations is used up"

end Fault

namespace Report

def bind (names : List String) (required : Nat) (positional : List (Literal Float))
    (named : List (String × Literal Float)) : Option (List (Literal Float)) :=
  let free := names.drop positional.length
  let missing := (names.take required).drop positional.length
  if positional.length ≤ names.length && named.all (fun entry => free.contains entry.1) &&
      missing.all (fun name => named.any fun entry => entry.1 = name) then
    some (positional ++ free.map fun name => (named.lookup name).getD .none)
  else none

def joined : List (Literal Float) → String
  | [] => ""
  | [one] => one.display
  | many => (Literal.tuple many).text

def build (kind : ErrorKind) (positional : List (Literal Float))
    (named : List (String × Literal Float)) : Outcome Float Report :=
  let bound (names : List String) (required : Nat) := bind names required positional named
  let found : Option Report :=
    match kind with
    | .manifold => if named.isEmpty then some (manifold (joined positional)) else none
    | .solver => if named.isEmpty then some (solver (joined positional)) else none
    | .dimension =>
      match bound ["message", "expected", "actual"] 1 with
      | some [message, expected, actual] => some (dimension message expected actual)
      | _ => none
    | .numericalStability =>
      match bound ["message", "condition_number", "matrix_norm", "recommended_action"] 1 with
      | some [message, condition, norm, action] =>
        some (numericalStability message condition norm action)
      | _ => none
    | .unsupportedMethod =>
      match bound ["message", "method", "manifold_type"] 1 with
      | some [message, method, space] => some (unsupportedMethod message method space)
      | _ => none
    | .configuration =>
      match bound ["parameter_name", "parameter_value", "constraint"] 3 with
      | some [parameter, value, constraint] => some (configuration parameter value constraint)
      | _ => none
    | .degeneracy =>
      match bound ["message", "iteration", "value"] 1 with
      | some [message, iteration, value] => some (degeneracy message iteration value)
      | _ => none
    | .damping =>
      match bound ["message", "iteration", "alpha", "theta", "trials"] 1 with
      | some [message, iteration, alpha, theta, trials] =>
        some (damping message iteration alpha theta trials)
      | _ => none
    | _ => none
  match found with
  | some report => .ok report
  | none => .error .argumentCount

end Report

end ManifoldOpt
