import ManifoldOpt.Proofs.Newton.Modes
import ManifoldOpt.Proofs.Solver.Interruption

/-!
Where the fault of a Newton direction comes from. It is the fault of the first operation that fails: a
function of the caller, the manifold, the bundle, a check, or the solution of the system.
-/

set_option autoImplicit false

namespace ManifoldOpt

open Attempt

variable {α : Type} [Scalar α] {e : Fault α} {s t : Trail α}

inductive CallFailure (call : Attempt α (Trail α) (Option (Tensor α))) (missing : Fault α)
    (s : Trail α) (e : Fault α) : Prop
  | raised {t : Trail α} (failed : call s = .error e t)
  | nothing {t : Trail α} (called : call s = .ok none t) (given : e = missing)

omit [Scalar α] in
theorem call_eq_error {call : Attempt α (Trail α) (Option (Tensor α))} {missing : Fault α}
    (failed : (do
      match ← call with
      | some value => return value
      | none => throw missing : Attempt α (Trail α) (Tensor α)) s = .error e t) :
    CallFailure call missing s e := by
  rcases bind_eq_error.mp failed with failed | ⟨value, u, called, rest⟩
  · exact .raised failed
  cases value with
  | some value => cases rest
  | none =>
    cases rest
    exact .nothing called rfl

namespace Procedure

def call (buffer p : Tensor α) : Procedure α → Attempt α (Trail α) (Option (Tensor α))
  | allocating f => f p
  | inPlace _ f => f (.ok buffer) p

def missing : Procedure α → Fault α
  | allocating _ => .missingArray
  | inPlace name _ => .forgottenBuffer name

omit [Scalar α] in
theorem evaluate_eq_error {f : Procedure α} {buffer p : Tensor α}
    (failed : f.evaluate buffer p s = .error e t) : CallFailure (f.call buffer p) f.missing s e := by
  cases f with
  | allocating f => exact call_eq_error failed
  | inPlace name f => exact call_eq_error failed

end Procedure

namespace RootProblem

variable {problem : RootProblem α} {base basis fiberBasis : Tensor α} {residual : Option (Tensor α)}
  {transport : Literal α}

inductive ResidualFailure (problem : RootProblem α) (base : Tensor α) (residual : Option (Tensor α))
    (transport : Literal α) (s : Trail α) (e : Fault α) : Prop
  | zero (failed : problem.bundle.zero (residual.getD base) = .error e)
  | map {buffer : Tensor α} (zero : problem.bundle.zero (residual.getD base) = .ok buffer)
    (cause : CallFailure (problem.map.call buffer (residual.getD base)) problem.map.missing s e)
  | connection {image : Tensor α} {t : Trail α}
    (mapped : problem.mapAt (residual.getD base) s = .ok image t)
    (failed : problem.connection image = .error e)
  | transport {q image value : Tensor α} {t : Trail α} (elsewhere : residual = some q)
    (mapped : problem.mapAt q s = .ok image t) (connected : problem.connection image = .ok value)
    (failed : problem.bundle.transport q base value transport = .error e)
  | scaling (failed : problem.scaling = .error e)

theorem rightHandSide_eq_error
    (failed : problem.rightHandSide base residual transport s = .error e t) :
    ResidualFailure problem base residual transport s e := by
  rcases bind_eq_error.mp failed with failed | ⟨image, u, mapped, failed⟩
  · rcases liftM_bind_eq_error.mp failed with ⟨failed, -⟩ | ⟨buffer, zero, failed⟩
    · exact .zero failed
    exact .map zero (Procedure.evaluate_eq_error failed)
  rcases liftM_bind_eq_error.mp failed with ⟨failed, -⟩ | ⟨value, connected, failed⟩
  · exact .connection mapped failed
  cases residual with
  | none =>
    rcases liftM_bind_eq_error.mp failed with ⟨failed, -⟩ | ⟨factor, -, impossible⟩
    · exact .scaling failed
    · cases impossible
  | some q =>
    rcases liftM_bind_eq_error.mp failed with ⟨failed, -⟩ | ⟨moved, -, failed⟩
    · exact .transport rfl mapped connected failed
    rcases liftM_bind_eq_error.mp failed with ⟨failed, -⟩ | ⟨factor, -, impossible⟩
    · exact .scaling failed
    · cases impossible

inductive MatrixFailure (problem : RootProblem α) (base basis fiberBasis : Tensor α)
    (operator : LinearOperator α) (e : Fault α) : Prop
  | basis (failed : basis.slices = .error e)
  | derivative {before after : List (Tensor α)} {b : Tensor α}
    (vectors : basis.slices = .ok (before ++ b :: after)) (failed : operator.apply b = .error e)
  | coordinates {before after : List (Tensor α)} {b image : Tensor α}
    (vectors : basis.slices = .ok (before ++ b :: after)) (applied : operator.apply b = .ok image)
    (failed : problem.bundle.coordinates base image (some fiberBasis) = .error e)
  | columns {vectors images : List (Tensor α)} (sliced : basis.slices = .ok vectors)
    (imaged : vectors.mapM (fun b => do
      problem.bundle.coordinates base (← operator.apply b) (some fiberBasis)) = .ok images)
    (failed : Tensor.columns images = .error e)

theorem derivativeMatrix_eq_error {operator : LinearOperator α}
    (failed : problem.derivativeMatrix base basis fiberBasis operator = .error e) :
    MatrixFailure problem base basis fiberBasis operator e := by
  rcases Outcome.bind_eq_error.mp failed with failed | ⟨vectors, sliced, failed⟩
  · exact .basis failed
  rcases Outcome.bind_eq_error.mp failed with failed | ⟨images, imaged, failed⟩
  · obtain ⟨before, b, after, rfl, -, failed⟩ := mapM_eq_error failed
    rcases Outcome.bind_eq_error.mp failed with failed | ⟨image, applied, failed⟩
    · exact .derivative sliced failed
    · exact .coordinates sliced applied failed
  · exact .columns sliced imaged failed

inductive SystemFailure (problem : RootProblem α) (base : Tensor α) (residual : Option (Tensor α))
    (transport : Literal α) (s : Trail α) (e : Fault α) : Prop
  | dimensions (failed : problem.checkDimensions = .error e)
  | basis (failed : problem.manifold.basis base = .error e)
  | fiberBasis (failed : problem.bundle.basis base = .error e)
  | derivative {t : Trail α} (failed : problem.derivative base s = .error e t)
  | matrix {basis fiberBasis : Tensor α} {operator : LinearOperator α} {t : Trail α}
    (tangent : problem.manifold.basis base = .ok basis)
    (fiber : problem.bundle.basis base = .ok fiberBasis)
    (derived : problem.derivative base s = .ok operator t)
    (cause : MatrixFailure problem base basis fiberBasis operator e)
  | residual {operator : LinearOperator α} {t : Trail α}
    (derived : problem.derivative base s = .ok operator t)
    (cause : ResidualFailure problem base residual transport t e)
  | coordinates {fiberBasis rhs : Tensor α} {operator : LinearOperator α} {t u : Trail α}
    (fiber : problem.bundle.basis base = .ok fiberBasis)
    (derived : problem.derivative base s = .ok operator t)
    (taken : problem.rightHandSide base residual transport t = .ok rhs u)
    (failed : problem.bundle.coordinates base rhs (some fiberBasis) = .error e)

theorem newtonSystem_eq_error
    (failed : problem.newtonSystem base residual transport s = .error e t) :
    SystemFailure problem base residual transport s e := by
  rcases liftM_bind_eq_error.mp failed with ⟨failed, -⟩ | ⟨_, -, failed⟩
  · exact .dimensions failed
  rcases liftM_bind_eq_error.mp failed with ⟨failed, -⟩ | ⟨basis, tangent, failed⟩
  · exact .basis failed
  rcases liftM_bind_eq_error.mp failed with ⟨failed, -⟩ | ⟨fiberBasis, fiber, failed⟩
  · exact .fiberBasis failed
  rcases bind_eq_error.mp failed with failed | ⟨operator, u, derived, failed⟩
  · exact .derivative failed
  rcases liftM_bind_eq_error.mp failed with ⟨failed, -⟩ | ⟨matrix, -, failed⟩
  · exact .matrix tangent fiber derived (derivativeMatrix_eq_error failed)
  rcases bind_eq_error.mp failed with failed | ⟨rhs, v, taken, failed⟩
  · exact .residual derived (rightHandSide_eq_error failed)
  rcases liftM_bind_eq_error.mp failed with ⟨failed, -⟩ | ⟨value, -, impossible⟩
  · exact .coordinates fiber derived taken failed
  · cases impossible

inductive VectorFailure (problem : RootProblem α) (check : ConditionCheck α) (base : Tensor α)
    (residual : Option (Tensor α)) (transport : Literal α) (s : Trail α) (e : Fault α) : Prop
  | system (cause : SystemFailure problem base residual transport s e)
  | condition {system : NewtonSystem α} {t : Trail α}
    (assembled : problem.newtonSystem base residual transport s = .ok system t)
    (failed : check.run "solve_newton_equation" system.matrix = .error e)
  | solution {system : NewtonSystem α} {t : Trail α}
    (assembled : problem.newtonSystem base residual transport s = .ok system t)
    (failed : solveDirect system.matrix system.value = .error e)
  | vector {system : NewtonSystem α} {c : Tensor α} {t : Trail α}
    (assembled : problem.newtonSystem base residual transport s = .ok system t)
    (solved : solveDirect system.matrix system.value = .ok c)
    (failed : problem.manifold.vector base c (some system.basis) = .error e)

theorem newtonVector_eq_error {check : ConditionCheck α}
    (failed : problem.newtonVector check base residual transport s = .error e t) :
    VectorFailure problem check base residual transport s e := by
  rcases bind_eq_error.mp failed with failed | ⟨system, u, assembled, failed⟩
  · exact .system (newtonSystem_eq_error failed)
  rcases liftM_bind_eq_error.mp failed with ⟨failed, -⟩ | ⟨_, -, failed⟩
  · exact .condition assembled failed
  rcases liftM_bind_eq_error.mp failed with ⟨failed, -⟩ | ⟨c, solved, failed⟩
  · exact .solution assembled failed
  exact .vector assembled solved (liftM_eq_error.mp failed).1

end RootProblem

namespace LinearState

def startCoordinates (equation : NewtonEquation α) (old : LinearState α) :
    Outcome α (Option (Tensor α)) :=
  match old.vector with
  | none => .ok none
  | some v => (equation.coordinates v).map some

inductive StepFailure (equation : NewtonEquation α) (system : NewtonSystem α) (old : LinearState α)
    (e : Fault α) : Prop
  | start (failed : old.startCoordinates equation = .error e)
  | solution {first : Option (Tensor α)} (started : old.startCoordinates equation = .ok first)
    (failed : solveBy old.method system.matrix system.value first old.tolerance = .error e)
  | vector {first : Option (Tensor α)} {c : Tensor α}
    (started : old.startCoordinates equation = .ok first)
    (solved : solveBy old.method system.matrix system.value first old.tolerance = .ok c)
    (failed : equation.vector c = .error e)
  | residual {first : Option (Tensor α)} {c v : Tensor α}
    (started : old.startCoordinates equation = .ok first)
    (solved : solveBy old.method system.matrix system.value first old.tolerance = .ok c)
    (combined : equation.vector c = .ok v) (failed : equation.residualNorm v = .error e)

theorem step_eq_error {equation : NewtonEquation α} {system : NewtonSystem α} {k : Int}
    {s t : Stage α (Run α (LinearState α))} (stored : equation.system = some system)
    (failed : step equation k s = .error e t) : StepFailure equation system s.state.own e := by
  -- Whether there is a vector to start from or not, the rest of the step is the same.
  have solving {first : Option (Tensor α)}
      (started : s.state.own.startCoordinates equation = .ok first)
      (failed : (do
        let c ← solveBy s.state.own.method system.matrix system.value first s.state.own.tolerance
        let v ← equation.vector c
        Running.modifyOwn fun s => { s with vector := some v }
        let rest ← equation.residualNorm v
        Stage.emit (.residual k rest) : Running α (LinearState α) Unit) s = .error e t) :
      StepFailure equation system s.state.own e := by
    rcases liftM_bind_eq_error.mp failed with ⟨failed, -⟩ | ⟨c, solved, failed⟩
    · exact .solution started failed
    rcases liftM_bind_eq_error.mp failed with ⟨failed, -⟩ | ⟨v, combined, failed⟩
    · exact .vector started solved failed
    rw [Running.modifyOwn_bind] at failed
    rcases liftM_bind_eq_error.mp failed with ⟨failed, -⟩ | ⟨rest, -, impossible⟩
    · exact .residual started solved combined failed
    · cases impossible
  rw [step, Running.getOwn_bind, stored] at failed
  cases current : s.state.own.vector with
  | none =>
    rw [current] at failed
    exact solving (by rw [startCoordinates, current]) failed
  | some v =>
    rw [current] at failed
    have started (c : Tensor α) (taken : equation.coordinates v = .ok c) :
        s.state.own.startCoordinates equation = .ok (some c) := by
      rw [startCoordinates, current]
      exact congrArg (Except.map some) taken
    rcases liftM_bind_eq_error.mp failed with ⟨failed, -⟩ | ⟨c, taken, failed⟩
    · refine .start ?_
      rw [startCoordinates, current]
      exact congrArg (Except.map some) failed
    exact solving (started c taken) failed

end LinearState

namespace InnerRun

variable {equation : NewtonEquation α} {p : Tensor α}

def startedAt (p : Tensor α) (s : Trail α) (r : Run α (LinearState α)) :
    Stage α (Run α (LinearState α)) :=
  ⟨s, { r with own := r.own.replaceVector p }⟩

inductive Failure (equation : NewtonEquation α) (system : NewtonSystem α) (p : Tensor α)
    (inner : InnerRun α) (s : Trail α) (e : Fault α) : Prop
  | manifold (failed : equation.manifold = .error e)
  | linear {r : Run α (LinearState α)} (given : inner = .linear r)
    (cause : (LinearState.solver equation).Failure Default.solveAllowance none (startedAt p s r) e)
    (steps : ∀ {n stages last},
      Solver.BreaksOff (LinearState.solver equation) none (startedAt p s r) n stages e last →
        LinearState.StepFailure equation system (stages n).state.own e)
  | vectorless {r : Run α (LinearState α)} {last : Stage α (Run α (LinearState α))}
    (given : inner = .linear r)
    (solved : (LinearState.solver equation).solve Default.solveAllowance none (startedAt p s r) =
      .ok () last)
    (empty : last.state.own.vector = none) (missing : e = .missingArray)
  | replacement {r : Run α (CountingState α)} (given : inner = .counting r)
    (failed : r.own.replacePoint p = .error e)
  | counting {r : Run α (CountingState α)} {moved : CountingState α} (given : inner = .counting r)
    (replaced : r.own.replacePoint p = .ok moved)
    (cause : (CountingState.solver equation.manifold none).Failure Default.solveAllowance none
      ⟨s, { r with own := moved }⟩ e)

theorem solveFrom_eq_error {system : NewtonSystem α} {inner : InnerRun α}
    {t : Stage α (InnerRun α)} (stored : equation.system = some system)
    (failed : solveFrom equation p ⟨s, inner⟩ = .error e t) :
    Failure equation system p inner s e := by
  rcases liftM_bind_eq_error.mp failed with ⟨failed, -⟩ | ⟨M, -, failed⟩
  · exact .manifold failed
  rw [Stage.getState_bind] at failed
  cases inner with
  | linear r =>
    obtain ⟨last, failed, -⟩ := Stage.within_eq_error.mp failed
    rw [Running.modifyOwn_bind] at failed
    rcases bind_eq_error.mp failed with failed | ⟨_, last, solved, failed⟩
    · refine .linear rfl (Solver.solve_eq_error failed) fun {n stages last} broken => ?_
      -- Asking the stopping rule before the step has left the state of the solver as it was.
      obtain ⟨u, memory, stepped, same⟩ := broken.stepped
      have cause := LinearState.step_eq_error stored stepped
      rwa [same] at cause
    · rw [Running.getOwn_bind] at failed
      cases empty : last.state.own.vector with
      | none =>
        rw [empty] at failed
        cases failed
        exact .vectorless rfl solved empty rfl
      | some v =>
        rw [empty] at failed
        cases failed
  | counting r =>
    obtain ⟨last, failed, -⟩ := Stage.within_eq_error.mp failed
    rw [Running.getOwn_bind] at failed
    rcases liftM_bind_eq_error.mp failed with ⟨failed, -⟩ | ⟨moved, replaced, failed⟩
    · exact .replacement rfl failed
    rw [Running.modifyOwn_bind] at failed
    rcases bind_eq_error.mp failed with failed | ⟨_, last, -, impossible⟩
    · exact .counting rfl replaced (Solver.solve_eq_error failed)
    · cases impossible

end InnerRun

namespace Newton

variable {problem : RootProblem α} {k : Int}

def posedAt (problem : RootProblem α) (frame : Frame α) (system : NewtonSystem α)
    (equation : NewtonEquation α) : NewtonEquation α :=
  { equation with source := some (problem, frame.point), system := some system }

inductive NestedFailure (problem : RootProblem α) (frame : Frame α) (equation : NewtonEquation α)
    (inner : InnerRun α) (s : Trail α) (e : Fault α) : Prop
  | system (cause : problem.SystemFailure frame.point frame.residualPoint frame.transport s e)
  | condition {system : NewtonSystem α} {t : Trail α}
    (assembled : problem.newtonSystem frame.point frame.residualPoint frame.transport s =
      .ok system t)
    (failed : equation.check.run "NewtonEquationSubproblem" system.matrix = .error e)
  | inner {system : NewtonSystem α} {t : Trail α}
    (assembled : problem.newtonSystem frame.point frame.residualPoint frame.transport s =
      .ok system t)
    (passed : equation.check.run "NewtonEquationSubproblem" system.matrix = .ok ())
    (cause : InnerRun.Failure (posedAt problem frame system equation) system frame.point.zerosLike
      inner t e)

theorem solveNested_eq_error {frame : Frame α} {equation : NewtonEquation α} {inner : InnerRun α}
    {s t : Stage α (Run α (NewtonState α))}
    (failed : solveNested problem frame equation inner s = .error e t) :
    NestedFailure problem frame equation inner s.trail e := by
  rw [solveNested] at failed
  cases assembled : problem.newtonSystem frame.point frame.residualPoint frame.transport s.trail with
  | error fault u =>
    rw [bind_of_error (pose_of_error assembled)] at failed
    cases failed
    exact .system (RootProblem.newtonSystem_eq_error assembled)
  | ok system u =>
    -- A system that is refused has been stored by then, but no inner run begins.
    have posing : pose problem frame equation inner s = _ := pose_of_system assembled
    cases checked : equation.check.run "NewtonEquationSubproblem" system.matrix with
    | error fault =>
      rw [checked] at posing
      rw [bind_of_error posing] at failed
      cases failed
      exact .condition assembled checked
    | ok _ =>
      rw [checked] at posing
      rw [bind_of_ok posing] at failed
      obtain ⟨last, failed, -⟩ := Stage.within_eq_error.mp failed
      exact .inner assembled checked (InnerRun.solveFrom_eq_error rfl failed)

/-- The array that a function may fill with the direction. -/
def directionBuffer (own : NewtonState α) : Tensor α :=
  if own.isSame then own.direction else own.point.zerosLike

/-- What the direction from the state `own` cannot be computed of. If the function called is the one
of the library, its fault is traced further. -/
inductive DirectionFailure (problem : RootProblem α) (k : Int) (own : NewtonState α) (s : Trail α)
    (e : Fault α) : Prop
  | allocating {f : DirectionFunction α} (mode : own.subsolver = .allocating f)
    (cause : CallFailure (f.allocating problem own.frame k) .missingArray s e)
    (library : f.allocating = Subsolver.direct →
      problem.VectorFailure .off own.point own.frame.residualPoint own.transport s e)
  | inPlace {f : DirectionFunction α} (mode : own.subsolver = .inPlace f)
    (cause : CallFailure (f.inPlace (.ok (directionBuffer own)) problem own.frame k)
      (.forgottenBuffer f.name) s e)
    (library : f.inPlace = Subsolver.directInto →
      problem.VectorFailure .off own.point own.frame.residualPoint own.transport s e ∨
      ∃ v t, problem.newtonVector .off own.point own.frame.residualPoint own.transport s = .ok v t ∧
        copyTo (directionBuffer own) v = .error e)
  | nested {equation : NewtonEquation α} {inner : InnerRun α}
    (mode : own.subsolver = .nested equation inner)
    (cause : NestedFailure problem own.frame equation inner s e)

theorem bufferedDirection_eq_error {f : DirectionFunction α} {buffer : Tensor α} {frame : Frame α}
    (rule : f.inPlace = Subsolver.directInto)
    (failed : bufferedDirection f (.ok buffer) problem frame k s = .error e t) :
    problem.VectorFailure .off frame.point frame.residualPoint frame.transport s e ∨
      ∃ v t, problem.newtonVector .off frame.point frame.residualPoint frame.transport s = .ok v t ∧
        copyTo buffer v = .error e := by
  unfold bufferedDirection at failed
  rw [rule] at failed
  simp only [Subsolver.directInto, bind_assoc, pure_bind] at failed
  -- The equation is solved before the buffer is looked at.
  rcases bind_eq_error.mp failed with failed | ⟨v, u, solved, failed⟩
  · exact .inl (RootProblem.newtonVector_eq_error failed)
  rw [liftM_ok_bind] at failed
  rcases liftM_bind_eq_error.mp failed with ⟨failed, -⟩ | ⟨w, -, impossible⟩
  · exact .inr ⟨v, u, solved, failed⟩
  · cases impossible

theorem computeDirection_eq_error {s t : Stage α (Run α (NewtonState α))}
    (failed : computeDirection problem k s = .error e t) :
    DirectionFailure problem k s.state.own s.trail e := by
  rw [computeDirection, Running.getOwn_bind] at failed
  cases mode : s.state.own.subsolver with
  | nested equation inner =>
    rw [mode] at failed
    exact .nested mode (solveNested_eq_error failed)
  | allocating f =>
    rw [mode] at failed
    obtain ⟨u, failed, -⟩ := Stage.onTrail_eq_error.mp failed
    refine .allocating mode (call_eq_error failed) fun rule => ?_
    rw [allocatedDirection_eq _ k rule] at failed
    exact RootProblem.newtonVector_eq_error failed
  | inPlace f =>
    rw [mode] at failed
    obtain ⟨u, failed, -⟩ := Stage.onTrail_eq_error.mp failed
    exact .inPlace mode (call_eq_error failed) fun rule => bufferedDirection_eq_error rule failed

end Newton

end ManifoldOpt
