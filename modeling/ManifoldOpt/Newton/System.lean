import ManifoldOpt.Linear.Condition
import ManifoldOpt.Linear.Solve
import ManifoldOpt.Problem.Basic

/-!
The Newton equation at a point. The derivative of the bundle map applied to a tangent vector equals
the negated residual, which may be taken at another point and carried over. In coordinates of the
tangent space and the fiber this is a square linear system.
-/

set_option autoImplicit false

namespace ManifoldOpt

variable {α : Type} [Scalar α]

structure NewtonSystem (α : Type) where
  matrix : Tensor α
  value : Tensor α
  basis : Tensor α

namespace RootProblem

/-- The right hand side over `base`, with the residual at `base` or at a point given for it. -/
def rightHandSide (problem : RootProblem α) (base : Tensor α) (residual : Option (Tensor α))
    (transport : Literal α) : Attempt α (Trail α) (Tensor α) := do
  let q := residual.getD base
  let image ← problem.mapAt q
  let value ← problem.connection image
  match residual with
  | none => return value.scale (-(← problem.scaling))
  | some q => do
    let moved ← problem.bundle.transport q base value transport
    return moved.scale (-(← problem.scaling))

def derivativeMatrix (problem : RootProblem α) (base basis fiberBasis : Tensor α)
    (operator : LinearOperator α) : Outcome α (Tensor α) := do
  let vectors ← basis.slices
  let images ← vectors.mapM fun b => do
    let image ← operator.apply b
    problem.bundle.coordinates base image (some fiberBasis)
  Tensor.columns images

def checkDimensions (problem : RootProblem α) : Outcome α Unit := do
  let fiber ← problem.bundle.fiberDimension
  let dimension ← problem.manifold.dimension
  if !fiber.same dimension then throw (.fiberMismatch dimension fiber)

def newtonSystem (problem : RootProblem α) (base : Tensor α) (residual : Option (Tensor α))
    (transport : Literal α) : Attempt α (Trail α) (NewtonSystem α) := do
  problem.checkDimensions
  let basis ← problem.manifold.basis base
  let fiberBasis ← problem.bundle.basis base
  let operator ← problem.derivative base
  let matrix ← problem.derivativeMatrix base basis fiberBasis operator
  let rhs ← problem.rightHandSide base residual transport
  let value ← problem.bundle.coordinates base rhs (some fiberBasis)
  return ⟨matrix, value, basis⟩

end RootProblem

def requireFinite (x : Tensor α) : Outcome α (Tensor α) :=
  if x.allFinite then .ok x else .error .noFiniteSolution

def solveDirect (matrix value : Tensor α) : Outcome α (Tensor α) := do
  requireFinite (← solveLinear matrix value)

def LinearSystem.ofTensors (matrix value : Tensor α) (start : Option (Tensor α)) :
    Outcome α (LinearSystem α × List α) :=
  match matrix.squareRows?, value.shape with
  | some rows, [n] =>
    let first := start.getD value.zerosLike
    if rows.length = n && first.shape = value.shape then
      .ok (⟨rows, value.entries⟩, first.entries)
    else .error .shapeClash
  | _, _ => .error .shapeClash

def solveIteratively (method : LinearSystem α → α → List α → List α) (matrix value : Tensor α)
    (start : Option (Tensor α)) (tolerance : Literal α) : Outcome α (Tensor α) := do
  let (system, first) ← LinearSystem.ofTensors matrix value start
  let bound ← tolerance.factor
  requireFinite (.vector (method system bound first))

def solveBy (method : Literal α) (matrix value : Tensor α) (start : Option (Tensor α))
    (tolerance : Literal α) : Outcome α (Tensor α) :=
  match method with
  | .string "direct" => solveDirect matrix value
  | .string "bicgstab" => solveIteratively Krylov.biconjugate matrix value start tolerance
  | .string "gmres" => solveIteratively Krylov.minimalResidual matrix value start tolerance
  | other => .error (.configuration "method" other .linearMethod)

structure ConditionCheck (α : Type) where
  wanted : Bool := false
  limit : Literal α

def ConditionCheck.run (check : ConditionCheck α) (operation : String) (matrix : Tensor α) :
    Outcome α Unit :=
  if check.wanted then checkConditioned matrix operation check.limit else .ok ()

def ConditionCheck.off : ConditionCheck α := { limit := .real Tolerance.condition }

namespace RootProblem

def newtonVector (problem : RootProblem α) (check : ConditionCheck α) (base : Tensor α)
    (residual : Option (Tensor α)) (transport : Literal α) :
    Attempt α (Trail α) (Tensor α) := do
  let system ← problem.newtonSystem base residual transport
  check.run "solve_newton_equation" system.matrix
  let c ← solveDirect system.matrix system.value
  problem.manifold.vector base c (some system.basis)

end RootProblem

end ManifoldOpt
