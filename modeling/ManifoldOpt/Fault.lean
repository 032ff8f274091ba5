import ManifoldOpt.Literal

set_option autoImplicit false

namespace ManifoldOpt

inductive Task
  | projection | exponential | logarithm | retraction | parallelTransport | innerProduct
  | tangentBasis | randomPoint | randomTangent | pointValidation | manifoldDimension
  | fiberDimension | fiberZero | fiberBasis | fiberCoordinates | fiberVector | fiberNorm
  | fiberTransport
  | stepsizeRule | stoppingCheck
  | solverStep | exposeIterate | replaceIterate | exposeDirection
  deriving DecidableEq, Repr

inductive Field
  | iteration | iterate | change | cost | stepsize | directionNorm
  deriving DecidableEq, Repr

inductive Constraint (α : Type)
  | nonNegative
  | positive
  | atLeastOne
  | atLeastDesired (desired : Number α)
  | stepKind
  | recordable
  | linearMethod
  | subproblemRequired
  | substateRequired
  | callable
  | linearizable
  | substateKind

inductive Fault (α : Type)
  | shapeClash
  | bufferClash
  | missingArray
  | notNumber
  | missingAxis
  | ambiguous
  | noAttribute
  | unknownName
  | divisionByZero
  | overflow
  | argumentCount
  | unimplemented (task : Task)
  | shapeMismatch (operation : String) (position : Nat) (expected actual : Shape)
  | fiberMismatch (expected actual : Number α)
  | illConditioned (operation : String) (condition norm : α)
  | unsupportedRetraction (method : Literal α) (space : String)
  | unsupportedTransport (method : Literal α) (space : String)
  | notLinearized
  | configuration (parameter : String) (value : Literal α) (constraint : Constraint α)
  | noFiniteSolution
  | dampingFailed (iteration : Int) (alpha theta : α) (trials : Nat)
  | callback (message : String)
  | noRecorder (solver : String)
  | notRecorded (field : String) (fields : List Field)
  | forgottenBuffer (name : String)
  | readOnly (field : String)
  | sphereExtentKind (given : Literal α)
  | sphereExtent (given : Literal α)
  | euclideanExtentKind (given : List (Literal α))
  | euclideanExtent (given : List (Literal α))
  | noExtent
  | fiberExtent (given : List (Literal α))
  /-- The allowance of iterations given to the driver loop is used up. -/
  | unfinished

abbrev Outcome (α β : Type) := Except (Fault α) β

namespace Field

def all : List Field := [change, cost, directionNorm, iterate, iteration, stepsize]

def name : Field → String
  | iteration => "iteration"
  | iterate => "iterate"
  | change => "change"
  | cost => "cost"
  | stepsize => "stepsize"
  | directionNorm => "direction_norm"

def ofName? (s : String) : Option Field := all.find? (·.name = s)

end Field

end ManifoldOpt
