import ManifoldOpt.Proofs.Newton.Effort
import ManifoldOpt.Proofs.Newton.Renewal
import ManifoldOpt.Proofs.Solver.Reports
import ManifoldOpt.Proofs.Subgradient.Renewal

set_option autoImplicit false

namespace ManifoldOpt

open Attempt

namespace Solver

/-- A run that starts over is compared to a new one with the criteria, the sub-solver and the fields
that the first one had. Of the subgradient method only the traces of a damping search are left; of
Newton's method, the direction if none has been computed, and what its sub-solver remembers. -/
theorem solves_forget_history {α : Type} [Scalar α] {s t : Trail α} (tally : s.tally = t.tally)
    (recorder recorder' : Option (Recorder α)) (allowance : Nat) :
    (∀ (problem : Problem α) (first r new : Run α (SubgradientState α)) v,
      problem.asCost.IgnoresEvents →
      Run.History Subgradient.Solves SubgradientState.replacePoint first r →
      new.stop = first.stop → new.own.SameSetting r.own →
      (new.attach recorder).recorder.map Recorder.fields =
        (r.attach recorder').recorder.map Recorder.fields →
      (Subgradient.solverFor problem).setUp ⟨t, r.attach recorder'⟩ = .ok () v →
      Agree (Stage.AlikeRuns SubgradientState.UpToTraces) Eq
        ((Subgradient.solverFor problem).solve (allowance + 1) recorder ⟨s, new⟩)
        ((Subgradient.solverFor problem).solve (allowance + 1) recorder' ⟨t, r⟩)) ∧
    ∀ (problem : RootProblem α) cost (first r new : Run α (NewtonState α)),
      (∀ f ∈ cost, ∀ p, Attempt.IgnoresEvents (f p)) →
      Subsolver.IgnoresBuffer problem first.own.subsolver →
      Run.History Newton.Solves NewtonState.replacePoint first r →
      new.stop = first.stop → new.own.subsolver = first.own.subsolver →
      new.own.SameSetting r.own →
      (new.attach recorder).recorder.map Recorder.fields =
        (r.attach recorder').recorder.map Recorder.fields →
      Agree (Stage.AlikeRuns NewtonState.UpToDirection) Eq
        ((Newton.solver problem cost).solve (allowance + 1) recorder ⟨s, new⟩)
        ((Newton.solver problem cost).solve (allowance + 1) recorder' ⟨t, r⟩) := by
  constructor
  · intro problem first r new v ignores history stop setting fields set
    have used : first.stop.AfterUse r.stop := history.used (by
      rintro _ ⟨problem, rfl⟩
      exact Subgradient.solverFor_leavesDriver problem)
    rw [← stop] at used
    exact Subgradient.solve_renews ignores tally used setting fields set allowance
  · intro problem cost first r new ignores ignoresBuffer history stop subsolver setting fields
    obtain ⟨used, used'⟩ := Newton.history_ages history
    rw [← stop] at used
    rw [← subsolver] at used' ignoresBuffer
    exact Newton.solve_renews ignores ignoresBuffer tally used used' setting fields allowance

end Solver

open Subgradient (parabola fromPoint changeOrTwo everyField solverFor)
open Newton (arctanOnLine directEquation directRun smallOrTwo)

def nestedFromOne : Run Float (NewtonState Float) where
  stop := smallOrTwo
  own := .start (euclidean [1]) (.tangent (euclidean [1])) (.vector [1])
    (.nested directEquation (.linear directRun)) none none .none .none

def SubgradientState.anew (x : SubgradientState Float) : SubgradientState Float where
  point := x.point
  best := x.point
  direction := x.point.zerosLike
  directionPoint := x.point
  stepsize := x.stepsize
  retraction := x.retraction

def NewtonState.anew (subsolver : Subsolver Float) (x : NewtonState Float) : NewtonState Float where
  point := x.point
  trial := x.point
  direction := x.point.zerosLike
  subsolver := subsolver
  stepsize := x.stepsize
  retraction := x.retraction
  transport := x.transport

theorem solves_forget_history_twice :
    let first : Run Float (SubgradientState Float) := (fromPoint 2 0.25 changeOrTwo).state
    let used := (left ((solverFor (.cost parabola)).solve 9 none ⟨{}, first⟩)).state
    let first' := nestedFromOne
    let used' := (left ((Newton.solver arctanOnLine none).solve 9 none ⟨{}, first'⟩)).state
    let recorder : Option (Recorder Float) := some (.ofFields everyField)
    (used.stop.memory.cell 2).iteration = 2 ∧
    Agree (Stage.AlikeRuns SubgradientState.UpToTraces) Eq
      ((solverFor (.cost parabola)).solve 9 recorder ⟨{}, { first with own := used.own.anew }⟩)
      ((solverFor (.cost parabola)).solve 9 recorder ⟨{}, used⟩) ∧
    Agree (Stage.AlikeRuns NewtonState.UpToDirection) Eq
      ((Newton.solver arctanOnLine none).solve 9 recorder
        ⟨{}, { first' with own := used'.own.anew first'.own.subsolver }⟩)
      ((Newton.solver arctanOnLine none).solve 9 recorder ⟨{}, used'⟩) := by
  intro first used first' used' recorder
  have fired : (used.stop.memory.cell 2).iteration = 2 := by decide +kernel
  have history : Run.History Subgradient.Solves SubgradientState.replacePoint first used :=
    .solved .new ⟨.cost parabola, rfl⟩ 9 none {}
  have history' : Run.History Newton.Solves NewtonState.replacePoint first' used' :=
    .solved .new ⟨arctanOnLine, none, rfl⟩ 9 none {}
  -- From here on it does not matter what the solves have made of the states.
  clear_value used used'
  have ignores : parabola.IgnoresEvents := ⟨fun _ => couples_pure rfl, fun _ => couples_pure rfl⟩
  have ignores' : arctanOnLine.IgnoresEvents :=
    ⟨SampleFunction.procedure_ignores (euclidean [1]) (.rule .arctan) .fill "arctan" .allocating,
      fun _ => couples_outcome _⟩
  have uncosted : ∀ f ∈ (none : Option (Tensor Float → Attempt Float (Trail Float) Float)), ∀ p,
      Attempt.IgnoresEvents (f p) := nofun
  have evaluated (p : Tensor Float) :
      parabola.costAt p {} = .ok (Scalar.square (p.entries.headD 0)) {} := rfl
  have set := Subgradient.setUp_apply (s := ⟨{}, used.attach recorder⟩) (evaluated used.own.point)
  obtain ⟨subgradient, newton⟩ := Solver.solves_forget_history (s := ({} : Trail Float))
    (t := {}) rfl recorder recorder 8
  refine ⟨fired, ?_, ?_⟩
  · exact subgradient (.cost parabola) first used _ _ ignores history rfl ⟨rfl, rfl, rfl⟩ rfl set
  · exact newton arctanOnLine none first' used' _ uncosted (.nested ignores') history' rfl rfl
      ⟨rfl, rfl, rfl, rfl⟩ rfl

end ManifoldOpt
