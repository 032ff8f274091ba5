import ManifoldOpt.Literal

set_option autoImplicit false

namespace ManifoldOpt

variable {α : Type} [Scalar α]

namespace Tolerance

def epsilon : α := 1e-10

def relative : α := 1e-8

def absolute : α := 1e-10

/-- The gap between one and the next double; guards the normalization of steps. -/
def machine : α := 2.220446049250313e-16

def condition : α := 1e12

def validation : α := 1e-6

end Tolerance

namespace Default

def subgradientIterations : Nat := 5000

def newtonIterations : Nat := 1000

def initialContraction : α := 1.3

def desiredContraction : α := 0.5

def acceptanceFactor : α := 1.1

def dampingTrials : Nat := 50

def leastDamping : α := 1e-15

/-- How often a stopping rule that knows no budget may be asked before a run is given up. -/
def solveAllowance : Nat := Nat.pow 10 12

end Default

def constantTables : List (String × List (String × Literal α)) :=
  [("NumericalConstants",
    [("EPSILON", .real Tolerance.epsilon),
     ("RTOL", .real Tolerance.relative),
     ("ATOL", .real Tolerance.absolute),
     ("MACHINE_EPSILON", .real Tolerance.machine),
     ("MAX_CONDITION", .real Tolerance.condition),
     ("VALIDATION_TOLERANCE", .real Tolerance.validation)]),
   ("SolverDefaults",
    [("SUBGRADIENT_MAX_ITERATIONS", .int Default.subgradientIterations),
     ("NEWTON_MAX_ITERATIONS", .int Default.newtonIterations),
     ("THETA_INITIAL", .real Default.initialContraction),
     ("THETA_DESIRED", .real Default.desiredContraction),
     ("THETA_ACCEPT_FACTOR", .real Default.acceptanceFactor),
     ("MAX_DAMPING_TRIALS", .int Default.dampingTrials),
     ("MIN_DAMPING", .real Default.leastDamping)])]

end ManifoldOpt
