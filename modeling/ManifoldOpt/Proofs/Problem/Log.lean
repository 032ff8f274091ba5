import ManifoldOpt.Newton.Method
import ManifoldOpt.Proofs.Log

set_option autoImplicit false

namespace ManifoldOpt

open Attempt

variable {α : Type} [Scalar α]

inductive Procedure.NoReports : Procedure α → Prop
  | allocating {f : Callback α} (noReports : ∀ p, (f p).NoReports) : NoReports (.allocating f)
  | inPlace {name : String} {f : Outcome α (Tensor α) → Callback α}
    (noReports : ∀ buffer p, (f buffer p).NoReports) : NoReports (.inPlace name f)

omit [Scalar α] in
theorem Procedure.NoReports.evaluate {f : Procedure α} (noReports : f.NoReports)
    (buffer p : Tensor α) : (f.evaluate buffer p).NoReports := by
  cases noReports with
  | allocating noReports =>
    refine (noReports p).bind fun v => ?_
    cases v with
    | none => exact .throw rfl
    | some v => exact .pure v
  | inPlace noReports =>
    refine (noReports (.ok buffer) p).bind fun v => ?_
    cases v with
    | none => exact .throw rfl
    | some v => exact .pure v

structure CostProblem.NoReports (problem : CostProblem α) : Prop where
  manifold : problem.manifold.NoWarning
  cost : ∀ p, (problem.cost p).NoReports
  subgradient : problem.subgradient.NoReports

theorem CostProblem.NoReports.costAt {problem : CostProblem α} (noReports : problem.NoReports)
    (p : Tensor α) : (problem.costAt p).NoReports := by
  refine (noReports.cost p).bind fun v => ?_
  cases v with
  | none => exact .throw rfl
  | some v => exact .liftM v.number_noWarning

def LinearOperator.NoWarning : LinearOperator α → Prop
  | matrix _ => True
  | action f => ∀ v, (f v).NoWarning

theorem LinearOperator.NoWarning.apply {operator : LinearOperator α} (noWarning : operator.NoWarning)
    (v : Tensor α) : (operator.apply v).NoWarning := by
  cases operator with
  | matrix a =>
    refine (Tensor.apply_noWarning _ _).bind fun result => ?_
    split
    · exact .ite (Tensor.reshape_noWarning _ _) (Outcome.noWarning_ok _)
    · exact Outcome.noWarning_error.mpr rfl
  | action f => exact noWarning v

structure RootProblem.NoReports (problem : RootProblem α) : Prop where
  manifold : problem.manifold.NoWarning
  bundle : problem.bundle.NoWarning
  map : problem.map.NoReports
  derivative : ∀ p, (problem.derivative p).NoReports
  operator : ∀ p t operator u, problem.derivative p t = .ok operator u → operator.NoWarning
  connection : ∀ v, (problem.connection v).NoWarning
  scaling : problem.scaling.NoWarning

namespace RootProblem.NoReports

variable {problem : RootProblem α} (noReports : problem.NoReports)

include noReports

theorem derivativeMatrix (base basis fiberBasis : Tensor α) {operator : LinearOperator α}
    (noWarning : operator.NoWarning) :
    (problem.derivativeMatrix base basis fiberBasis operator).NoWarning := by
  refine basis.slices_noWarning.bind fun vectors => ?_
  refine (Outcome.NoWarning.mapM (fun b => ?_) vectors).bind fun images =>
    Tensor.columns_noWarning images
  exact (noWarning.apply b).bind fun image => noReports.bundle.coordinates _ _ _

theorem rightHandSide (base : Tensor α) (residual : Option (Tensor α)) (transport : Literal α) :
    (problem.rightHandSide base residual transport).NoReports := by
  have image (q : Tensor α) : (problem.mapAt q).NoReports :=
    (Attempt.NoReports.liftM (noReports.bundle.zero q)).bind fun buffer =>
      noReports.map.evaluate buffer q
  refine (image _).bind fun image => ?_
  refine (Attempt.NoReports.liftM (noReports.connection image)).bind fun value => ?_
  cases residual with
  | none => exact (Attempt.NoReports.liftM noReports.scaling).bind fun factor => .pure _
  | some q =>
    refine (Attempt.NoReports.liftM (noReports.bundle.transport _ _ _ _)).bind fun moved => ?_
    exact (Attempt.NoReports.liftM noReports.scaling).bind fun factor => .pure _

theorem newtonSystem (base : Tensor α) (residual : Option (Tensor α)) (transport : Literal α) :
    (problem.newtonSystem base residual transport).NoReports := by
  have checked : problem.checkDimensions.NoWarning := by
    refine noReports.bundle.fiberDimension.bind fun fiber => ?_
    refine noReports.manifold.dimension.bind fun dimension => ?_
    exact .ite (Outcome.noWarning_error.mpr rfl) (Outcome.noWarning_ok ())
  refine (Attempt.NoReports.liftM checked).bind fun _ => ?_
  refine (Attempt.NoReports.liftM (noReports.manifold.basis base)).bind fun basis => ?_
  refine (Attempt.NoReports.liftM (noReports.bundle.basis base)).bind fun fiberBasis => ?_
  refine (noReports.derivative base).bind_of_ok fun t operator u derived => ?_
  have noWarning := noReports.operator base t operator u derived
  refine (Attempt.NoReports.liftM (noReports.derivativeMatrix _ _ _ noWarning)).bind fun matrix => ?_
  refine (noReports.rightHandSide base residual transport).bind fun rhs => ?_
  exact (Attempt.NoReports.liftM (noReports.bundle.coordinates _ _ _)).bind fun value => .pure _

theorem newtonVector (check : ConditionCheck α) (base : Tensor α)
    (residual : Option (Tensor α)) (transport : Literal α) :
    (problem.newtonVector check base residual transport).NoReports := by
  refine (noReports.newtonSystem base residual transport).bind fun system => ?_
  refine (Attempt.NoReports.liftM (check.run_noWarning _ _)).bind fun _ => ?_
  refine (Attempt.NoReports.liftM (solveDirect_noWarning _ _)).bind fun c => ?_
  exact .liftM (noReports.manifold.vector _ _ _)

end RootProblem.NoReports

end ManifoldOpt
