import ManifoldOpt.Cache
import ManifoldOpt.Choice
import ManifoldOpt.Constants
import ManifoldOpt.Counting
import ManifoldOpt.Damping
import ManifoldOpt.Fault
import ManifoldOpt.Linear.Condition
import ManifoldOpt.Linear.Solve
import ManifoldOpt.Literal
import ManifoldOpt.Manifold.Basic
import ManifoldOpt.Manifold.Bundle
import ManifoldOpt.Manifold.Compiled
import ManifoldOpt.Manifold.Euclidean
import ManifoldOpt.Manifold.Extent
import ManifoldOpt.Manifold.Sphere
import ManifoldOpt.Newton.Equation
import ManifoldOpt.Newton.Method
import ManifoldOpt.Newton.System
import ManifoldOpt.Parameter
import ManifoldOpt.Problem.Basic
import ManifoldOpt.Problem.Gallery
import ManifoldOpt.Proofs.Attempt
import ManifoldOpt.Proofs.Cache
import ManifoldOpt.Proofs.Compiler
import ManifoldOpt.Proofs.Constraints
import ManifoldOpt.Proofs.Conventions
import ManifoldOpt.Proofs.Coupling
import ManifoldOpt.Proofs.Damping.Coupling
import ManifoldOpt.Proofs.Damping.Failure
import ManifoldOpt.Proofs.Damping.Log
import ManifoldOpt.Proofs.Damping.Parting
import ManifoldOpt.Proofs.Damping.Reference
import ManifoldOpt.Proofs.Damping.Rounds
import ManifoldOpt.Proofs.Linear.Coordinates
import ManifoldOpt.Proofs.Linear.Elimination
import ManifoldOpt.Proofs.Linear.Image
import ManifoldOpt.Proofs.Linear.StandardBasis
import ManifoldOpt.Proofs.Log
import ManifoldOpt.Proofs.Manifold.Bundle
import ManifoldOpt.Proofs.Manifold.Euclidean
import ManifoldOpt.Proofs.Manifold.FlatCoordinates
import ManifoldOpt.Proofs.Manifold.Frame
import ManifoldOpt.Proofs.Manifold.Geodesic
import ManifoldOpt.Proofs.Manifold.Length
import ManifoldOpt.Proofs.Manifold.Reflection
import ManifoldOpt.Proofs.Manifold.Shaped
import ManifoldOpt.Proofs.Manifold.Sphere
import ManifoldOpt.Proofs.Manifold.Symmetry
import ManifoldOpt.Proofs.Manifold.TangentBasis
import ManifoldOpt.Proofs.Manifold.Transport
import ManifoldOpt.Proofs.Newton.Acceptance
import ManifoldOpt.Proofs.Newton.Affine
import ManifoldOpt.Proofs.Newton.AfterUse
import ManifoldOpt.Proofs.Newton.Agreement
import ManifoldOpt.Proofs.Newton.Cause
import ManifoldOpt.Proofs.Newton.Codomain
import ManifoldOpt.Proofs.Newton.Correctness
import ManifoldOpt.Proofs.Newton.Covariance
import ManifoldOpt.Proofs.Newton.Damping
import ManifoldOpt.Proofs.Newton.Direction
import ManifoldOpt.Proofs.Newton.Effort
import ManifoldOpt.Proofs.Newton.Evaluation
import ManifoldOpt.Proofs.Newton.Failure
import ManifoldOpt.Proofs.Newton.Inner
import ManifoldOpt.Proofs.Newton.Log
import ManifoldOpt.Proofs.Newton.Modes
import ManifoldOpt.Proofs.Newton.Nonsingular
import ManifoldOpt.Proofs.Newton.Parting
import ManifoldOpt.Proofs.Newton.Posing
import ManifoldOpt.Proofs.Newton.Progress
import ManifoldOpt.Proofs.Newton.Renewal
import ManifoldOpt.Proofs.Newton.RightHandSide
import ManifoldOpt.Proofs.Newton.SameEquations
import ManifoldOpt.Proofs.Newton.Scaling
import ManifoldOpt.Proofs.Newton.Solution
import ManifoldOpt.Proofs.Newton.Stationary
import ManifoldOpt.Proofs.Newton.Step
import ManifoldOpt.Proofs.Newton.System
import ManifoldOpt.Proofs.Newton.Transformed
import ManifoldOpt.Proofs.Parting
import ManifoldOpt.Proofs.Problem.Conventions
import ManifoldOpt.Proofs.Problem.Gallery
import ManifoldOpt.Proofs.Problem.Log
import ManifoldOpt.Proofs.Scalar.Bits
import ManifoldOpt.Proofs.Scalar.Exact
import ManifoldOpt.Proofs.Scalar.Order
import ManifoldOpt.Proofs.Scalar.Precision
import ManifoldOpt.Proofs.Scalar.Sign
import ManifoldOpt.Proofs.Scalar.Whole
import ManifoldOpt.Proofs.Solver.Coupling
import ManifoldOpt.Proofs.Solver.Course
import ManifoldOpt.Proofs.Solver.Effort
import ManifoldOpt.Proofs.Solver.Ending
import ManifoldOpt.Proofs.Solver.Events
import ManifoldOpt.Proofs.Solver.Guarded
import ManifoldOpt.Proofs.Solver.History
import ManifoldOpt.Proofs.Solver.Interruption
import ManifoldOpt.Proofs.Solver.Lawful
import ManifoldOpt.Proofs.Solver.Log
import ManifoldOpt.Proofs.Solver.Parting
import ManifoldOpt.Proofs.Solver.Recorder
import ManifoldOpt.Proofs.Solver.Recording
import ManifoldOpt.Proofs.Solver.Relation
import ManifoldOpt.Proofs.Solver.Renewal
import ManifoldOpt.Proofs.Solver.Reports
import ManifoldOpt.Proofs.Solver.Reuse
import ManifoldOpt.Proofs.Stepsize
import ManifoldOpt.Proofs.Stepsize.Absolute
import ManifoldOpt.Proofs.Stepsize.Decreasing
import ManifoldOpt.Proofs.Stepsize.Sign
import ManifoldOpt.Proofs.Stopping.Budget
import ManifoldOpt.Proofs.Stopping.Check
import ManifoldOpt.Proofs.Stopping.Composition
import ManifoldOpt.Proofs.Stopping.Convergence
import ManifoldOpt.Proofs.Stopping.Coupling
import ManifoldOpt.Proofs.Stopping.Firing
import ManifoldOpt.Proofs.Stopping.Formula
import ManifoldOpt.Proofs.Stopping.LastChange
import ManifoldOpt.Proofs.Stopping.Plan
import ManifoldOpt.Proofs.Stopping.Renewal
import ManifoldOpt.Proofs.Stopping.Run
import ManifoldOpt.Proofs.Stopping.Sharing
import ManifoldOpt.Proofs.Stopping.Tree
import ManifoldOpt.Proofs.Subgradient.Absolute
import ManifoldOpt.Proofs.Subgradient.Best
import ManifoldOpt.Proofs.Subgradient.Convergence
import ManifoldOpt.Proofs.Subgradient.Failure
import ManifoldOpt.Proofs.Subgradient.Log
import ManifoldOpt.Proofs.Subgradient.Parting
import ManifoldOpt.Proofs.Subgradient.Renewal
import ManifoldOpt.Proofs.Subgradient.Restart
import ManifoldOpt.Proofs.Subgradient.Sphere
import ManifoldOpt.Proofs.Subgradient.Step
import ManifoldOpt.Proofs.Subgradient.Symmetry
import ManifoldOpt.Proofs.Tensor
import ManifoldOpt.Proofs.Trace
import ManifoldOpt.Proofs.Warnings
import ManifoldOpt.Report
import ManifoldOpt.Scalar
import ManifoldOpt.Session.Attribute
import ManifoldOpt.Session.Compile
import ManifoldOpt.Session.Creation
import ManifoldOpt.Session.Equation
import ManifoldOpt.Session.Handle
import ManifoldOpt.Session.Handle.Counting
import ManifoldOpt.Session.Handle.Newton
import ManifoldOpt.Session.Handle.Subgradient
import ManifoldOpt.Session.Operand
import ManifoldOpt.Session.Overlay
import ManifoldOpt.Session.Plane
import ManifoldOpt.Session.PlaneProblem
import ManifoldOpt.Session.Question
import ManifoldOpt.Session.Shown
import ManifoldOpt.Session.Space
import ManifoldOpt.Session.State
import ManifoldOpt.Session.StepLength
import ManifoldOpt.Solver.Recorder
import ManifoldOpt.Solver.Run
import ManifoldOpt.Solver.Trail
import ManifoldOpt.Stepsize
import ManifoldOpt.Stopping.Criterion
import ManifoldOpt.Stopping.Plan
import ManifoldOpt.Subgradient
import ManifoldOpt.Tensor.Basic
import ManifoldOpt.Tensor.Broadcast
import ManifoldOpt.Tensor.Product
import ManifoldOpt.Text.Address
import ManifoldOpt.Text.Aligned
import ManifoldOpt.Text.Decimal
import ManifoldOpt.Text.Event
import ManifoldOpt.Text.Json
import ManifoldOpt.Text.Literal
import ManifoldOpt.Text.Numeral
import ManifoldOpt.Text.Quoted
import ManifoldOpt.Text.Status
