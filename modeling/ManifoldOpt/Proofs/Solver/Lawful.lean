import ManifoldOpt.Counting
import ManifoldOpt.Proofs.Newton.Direction
import ManifoldOpt.Proofs.Subgradient.Step

set_option autoImplicit false

namespace ManifoldOpt

open Attempt

variable {α S : Type} [Scalar α]

structure Solver.Lawful (solver : Solver α S) : Prop where
  setUp : ∀ {s t}, solver.setUp s = .ok () t → t.state.stop = s.state.stop
  step : ∀ {k s t}, solver.step k s = .ok () t → t.state.stop = s.state.stop
  shown : ∀ {k s t p v}, solver.step k s = .ok () t →
    (solver.view t.state.own).subgradient = .ok (p, v) →
      (solver.view s.state.own).iterate = .ok (some p)

omit [Scalar α]

structure Run.SameDriver (r r' : Run α S) : Prop where
  stop : r'.stop = r.stop
  iteration : r'.iteration = r.iteration
  recorder : r'.recorder = r.recorder

theorem Run.SameDriver.refl (r : Run α S) : r.SameDriver r := ⟨rfl, rfl, rfl⟩

theorem Run.SameDriver.trans {r r' r'' : Run α S} (first : r.SameDriver r')
    (rest : r'.SameDriver r'') : r.SameDriver r'' :=
  ⟨rest.stop.trans first.stop, rest.iteration.trans first.iteration,
    rest.recorder.trans first.recorder⟩

abbrev KeepsDriver {β : Type} (m : Running α S β) : Prop :=
  ∀ r : Run α S, Keeps (fun s => r.SameDriver s.state) m

section KeepsDriver

variable {β : Type} {m : Running α S β} (keeps : KeepsDriver m) {s t : Stage α (Run α S)}

include keeps

theorem KeepsDriver.of_ok {b : β} (done : m s = .ok b t) : s.state.SameDriver t.state :=
  Keeps.of_ok (keeps s.state) (.refl s.state) done

theorem KeepsDriver.of_error {e : Fault α} (failed : m s = .error e t) :
    s.state.SameDriver t.state :=
  Keeps.of_error (keeps s.state) (.refl s.state) failed

end KeepsDriver

theorem KeepsDriver.of_keeps {β : Type} {m : Running α S β} {R : Run α S → Run α S → Prop}
    (refl : ∀ r, R r r) (driver : ∀ r r', R r r' → r.SameDriver r')
    (keeps : ∀ r, Keeps (fun s => R r s.state) m) : KeepsDriver m := fun _ =>
  Keeps.of_related (fun s => keeps s.state) (fun s => refl s.state)
    fun _ _ before after => before.trans (driver _ _ after)

theorem modifyOwn_keepsDriver (f : S → S) :
    KeepsDriver (Running.modifyOwn f : Running α S Unit) := fun _ =>
  Running.keeps_modifyOwn fun _ same => ⟨same.stop, same.iteration, same.recorder⟩

theorem setStepsize_keepsDriver (size : Option α) :
    KeepsDriver (Running.setStepsize size : Running α S Unit) := fun _ _ same =>
  ⟨same.stop, same.iteration, same.recorder⟩

theorem onTrail_keepsDriver {β : Type} (m : Attempt α (Trail α) β) :
    KeepsDriver (Stage.onTrail m : Running α S β) := fun _ => Stage.keeps_onTrail _ m

variable [Scalar α]

structure Solver.LeavesDriver (solver : Solver α S) : Prop where
  setUp : KeepsDriver solver.setUp
  step : ∀ k, KeepsDriver (solver.step k)

theorem Subgradient.stepLength_keepsDriver {M : Manifold α} {k : Int} :
    KeepsDriver (stepLength M k) := by
  refine .of_keeps (fun r => ⟨r.own.traces, rfl⟩) ?_ fun r => stepLength_keeps r M k
  rintro r _ ⟨traces, rfl⟩
  exact ⟨rfl, rfl, rfl⟩

theorem Subgradient.keepBest_keepsDriver (cost : α) : KeepsDriver (keepBest cost) := by
  intro r
  refine (Running.keeps_getOwn _).bind fun s => ?_
  cases s.bestCost with
  | none => exact keeps_throw _
  | some best => exact Keeps.ite (fun _ => modifyOwn_keepsDriver _ r) fun _ => keeps_pure _

theorem Subgradient.step_keepsDriver {problem : CostProblem α} {k : Int} :
    KeepsDriver (step problem k) := by
  intro r
  refine (modifyOwn_keepsDriver _ r).bind fun _ => (Running.keeps_getOwn _).bind fun s => ?_
  refine (onTrail_keepsDriver _ r).bind fun v => (modifyOwn_keepsDriver _ r).bind fun _ => ?_
  refine (stepLength_keepsDriver r).bind fun length => ?_
  refine (setStepsize_keepsDriver _ r).bind fun _ => (Running.keeps_getOwn _).bind fun s => ?_
  refine (keeps_liftM _).bind fun p => (modifyOwn_keepsDriver _ r).bind fun _ => ?_
  exact (onTrail_keepsDriver _ r).bind fun cost => keepBest_keepsDriver cost r

theorem Subgradient.solver_leavesDriver (problem : CostProblem α) : (solver problem).LeavesDriver where
  setUp r := by
    refine (modifyOwn_keepsDriver _ r).bind fun _ => (Running.keeps_getOwn _).bind fun s => ?_
    refine (onTrail_keepsDriver _ r).bind fun cost => (modifyOwn_keepsDriver _ r).bind fun _ => ?_
    exact setStepsize_keepsDriver _ r
  step _ := step_keepsDriver

theorem Subgradient.solver_lawful (problem : CostProblem α) : (solver problem).Lawful where
  setUp done := ((solver_leavesDriver problem).setUp.of_ok done).stop
  step done := (step_keepsDriver.of_ok done).stop
  shown done taken := by
    obtain ⟨v, p, length, cost, best, advance, -⟩ := step_eq_ok done
    obtain ⟨traces, left⟩ := advance.left
    simp only [solver, view, plainView, left] at taken ⊢
    cases taken
    rfl

theorem Subgradient.solverFor_lawful (problem : Problem α) : (solverFor problem).Lawful where
  setUp := (solver_lawful problem.asCost).setUp
  step := (solver_lawful problem.asCost).step
  shown := (solver_lawful problem.asCost).shown

theorem Subgradient.solverFor_leavesDriver (problem : Problem α) :
    (solverFor problem).LeavesDriver where
  setUp := (solver_leavesDriver problem.asCost).setUp
  step := (solver_leavesDriver problem.asCost).step

theorem Newton.computeDirection_keepsDriver {problem : RootProblem α} {k : Int} :
    KeepsDriver (computeDirection problem k) := by
  refine .of_keeps (fun r => ⟨r.own.subsolver, rfl⟩) ?_ fun r => computeDirection_keeps r k
  rintro r _ ⟨subsolver, rfl⟩
  exact ⟨rfl, rfl, rfl⟩

theorem Newton.step_keepsDriver {problem : RootProblem α} {k : Int} :
    KeepsDriver (step problem k) := fun r =>
  step_keeps (fun _ _ _ same => ⟨same.stop, same.iteration, same.recorder⟩)
    (fun _ _ same => ⟨same.stop, same.iteration, same.recorder⟩) (computeDirection_keepsDriver r)

theorem Newton.solver_leavesDriver (problem : RootProblem α)
    (cost : Option (Tensor α → Attempt α (Trail α) α)) : (solver problem cost).LeavesDriver where
  setUp r := (modifyOwn_keepsDriver _ r).bind fun _ => setStepsize_keepsDriver _ r
  step _ := step_keepsDriver

theorem Newton.solver_lawful (problem : RootProblem α)
    (cost : Option (Tensor α → Attempt α (Trail α) α)) : (solver problem cost).Lawful where
  setUp done := ((solver_leavesDriver problem cost).setUp.of_ok done).stop
  step done := (step_keepsDriver.of_ok done).stop
  shown _ taken := by cases taken

inductive NewtonEquation.Gives (e : NewtonEquation α) (v : Tensor α) : Prop
  | of {system : NewtonSystem α} {method tolerance : Literal α} {first : Option (Tensor α)}
    {c : Tensor α} (stored : e.system = some system)
    (solved : solveBy method system.matrix system.value first tolerance = .ok c)
    (combined : e.vector c = .ok v)

theorem LinearState.step_keeps {I : Run α (LinearState α) → Prop} {e : NewtonEquation α} {k : Int}
    (solved : ∀ r v, e.Gives v → I r → I { r with own := { r.own with vector := some v } }) :
    Keeps (fun s => I s.state) (step e k) := by
  refine (Running.keeps_getOwn _).bind fun s => ?_
  extract_lets solving
  -- With and without a first vector the system is solved in the same way.
  have keeps (first : Option (Tensor α)) : Keeps (fun t => I t.state) (solving first) := by
    simp only [solving]
    cases stored : e.system with
    | none => exact (keeps_liftM _).bind fun _ => keeps_throw _
    | some system =>
      refine Keeps.lift_bind fun c found => Keeps.lift_bind fun v combined => ?_
      have given : e.Gives v := .of stored found combined
      refine (Running.keeps_modifyOwn fun r => solved r v given).bind fun _ => ?_
      exact (keeps_liftM _).bind fun rest => Stage.keeps_emit _ _
  cases s.vector with
  | none => exact (keeps_pure _).bind keeps
  | some v => exact (keeps_liftM _).bind fun c => (keeps_pure _).bind keeps

theorem LinearState.step_keepsDriver {e : NewtonEquation α} {k : Int} :
    KeepsDriver (step e k) := fun _ =>
  step_keeps fun _ _ _ same => ⟨same.stop, same.iteration, same.recorder⟩

theorem LinearState.solver_leavesDriver (e : NewtonEquation α) : (solver e).LeavesDriver where
  setUp _ := keeps_pure _
  step _ := step_keepsDriver

theorem LinearState.solver_lawful (e : NewtonEquation α) : (solver e).Lawful where
  setUp done := ((solver_leavesDriver e).setUp.of_ok done).stop
  step done := (step_keepsDriver.of_ok done).stop
  shown _ taken := by cases taken

theorem CountingState.step_keepsDriver {k : Int} :
    KeepsDriver (step k : Running α (CountingState α) Unit) := by
  intro r
  refine Keeps.bind ?_ fun _ => (modifyOwn_keepsDriver _ r).bind fun _ => ?_
  · refine (Running.keeps_getOwn _).bind fun s => Keeps.ite (fun _ => ?_) fun _ => ?_
    · exact keeps_throw _
    · exact keeps_pure _
  · refine (Running.keeps_getOwn _).bind fun s => (keeps_liftM _).bind fun v => ?_
    refine (modifyOwn_keepsDriver _ r).bind fun _ => (keeps_liftM _).bind fun p => ?_
    exact (modifyOwn_keepsDriver _ r).bind fun _ => setStepsize_keepsDriver _ r

theorem CountingState.solver_leavesDriver (M : Outcome α (Manifold α))
    (cost : Option (Tensor α → Attempt α (Trail α) α)) : (solver M cost).LeavesDriver where
  setUp := modifyOwn_keepsDriver fun s : CountingState α => { s with calls := s.calls ++ [.setUp] }
  step _ := step_keepsDriver

theorem CountingState.solver_lawful (M : Outcome α (Manifold α))
    (cost : Option (Tensor α → Attempt α (Trail α) α)) : (solver M cost).Lawful where
  setUp done := ((solver_leavesDriver M cost).setUp.of_ok done).stop
  step done := (step_keepsDriver.of_ok done).stop
  shown _ taken := by cases taken

theorem abstractSolver_leavesDriver (M : Outcome α (Manifold α))
    (cost : Option (Tensor α → Attempt α (Trail α) α)) : (abstractSolver M cost).LeavesDriver where
  setUp _ := keeps_pure _
  step _ _ := keeps_throw _

theorem abstractSolver_lawful (M : Outcome α (Manifold α))
    (cost : Option (Tensor α → Attempt α (Trail α) α)) : (abstractSolver M cost).Lawful where
  setUp done := ((abstractSolver_leavesDriver M cost).setUp.of_ok done).stop
  step done := absurd done throw_ne_ok
  shown done := absurd done throw_ne_ok

end ManifoldOpt
