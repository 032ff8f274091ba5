import ManifoldOpt.Manifold.Bundle
import ManifoldOpt.Solver.Trail
import ManifoldOpt.Tensor.Product

set_option autoImplicit false

namespace ManifoldOpt

variable {α : Type} [Scalar α]

abbrev Callback (α : Type) := Tensor α → Attempt α (Trail α) (Option (Tensor α))

inductive Procedure (α : Type)
  | allocating (f : Callback α)
  | inPlace (name : String) (f : Outcome α (Tensor α) → Callback α)

namespace Procedure

def evaluateWith (buffer : Outcome α (Tensor α)) (point : Tensor α) :
    Procedure α → Attempt α (Trail α) (Tensor α)
  | allocating f => do
    match ← f point with
    | some value => return value
    | none => throw .missingArray
  | inPlace name f => do
    match ← f buffer point with
    | some value => return value
    | none => throw (.forgottenBuffer name)

def evaluate (buffer point : Tensor α) (f : Procedure α) : Attempt α (Trail α) (Tensor α) :=
  f.evaluateWith (.ok buffer) point

end Procedure

def Callback.number (f : Callback α) (p : Tensor α) : Attempt α (Trail α) α := do
  match ← f p with
  | some value => value.number
  | none => throw .notNumber

inductive LinearOperator (α : Type)
  | matrix (a : Tensor α)
  | action (f : Tensor α → Outcome α (Tensor α))

namespace LinearOperator

def applyMatrix (a v : Tensor α) : Outcome α (Tensor α) := do
  let result ← a.apply v.ravel
  match a.shape with
  | m :: n :: _ => if m = n then result.reshape v.shape else return result
  | _ => throw .missingAxis

def apply (v : Tensor α) : LinearOperator α → Outcome α (Tensor α)
  | matrix a => applyMatrix a v
  | action f => f v

end LinearOperator

structure CostProblem (α : Type) [Scalar α] where
  manifold : Manifold α
  cost : Callback α
  subgradient : Procedure α

namespace CostProblem

def costAt (problem : CostProblem α) (p : Tensor α) : Attempt α (Trail α) α :=
  problem.cost.number p

def subgradientInto (problem : CostProblem α) (buffer p : Tensor α) :
    Attempt α (Trail α) (Tensor α) :=
  problem.subgradient.evaluate buffer p

def subgradientAt (problem : CostProblem α) (p : Tensor α) : Attempt α (Trail α) (Tensor α) :=
  problem.subgradientInto p.zerosLike p

end CostProblem

structure RootProblem (α : Type) [Scalar α] where
  manifold : Manifold α
  bundle : Bundle α
  map : Procedure α
  derivative : Tensor α → Attempt α (Trail α) (LinearOperator α)
  connection : Tensor α → Outcome α (Tensor α) := .ok
  scaling : Outcome α α := .ok 1

namespace RootProblem

/-- The map at `p`; a procedure that fills a buffer gets the zero of the fiber over `p`. -/
def mapAt (problem : RootProblem α) (p : Tensor α) : Attempt α (Trail α) (Tensor α) := do
  let buffer ← problem.bundle.zero p
  problem.map.evaluate buffer p

end RootProblem

inductive Problem (α : Type) [Scalar α]
  | cost (problem : CostProblem α)
  | root (problem : RootProblem α)

namespace Problem

def manifold : Problem α → Manifold α
  | cost problem => problem.manifold
  | root problem => problem.manifold

def asCost : Problem α → CostProblem α
  | cost problem => problem
  | root problem =>
    { manifold := problem.manifold
      cost := fun _ => throw .noAttribute
      subgradient := .allocating fun _ => throw .noAttribute }

def missingBundle : Bundle α where
  label := ""
  fiberDimension := .error .noAttribute
  zero _ := .error .noAttribute
  basis _ := .error .noAttribute
  coordinates _ _ _ := .error .noAttribute
  vector _ _ _ := .error .noAttribute
  norm _ _ := .error .noAttribute
  transport _ _ _ _ := .error .noAttribute

def asRoot : Problem α → RootProblem α
  | cost problem =>
    { manifold := problem.manifold
      bundle := missingBundle
      map := .allocating fun _ => throw .noAttribute
      derivative := fun _ => throw .noAttribute
      connection := fun _ => throw .noAttribute }
  | root problem => problem

def costAt? : Problem α → Option (Tensor α → Attempt α (Trail α) α)
  | cost problem => some problem.costAt
  | root _ => none

end Problem

end ManifoldOpt
