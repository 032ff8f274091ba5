import ManifoldOpt.Proofs.Solver.Interruption
import ManifoldOpt.Proofs.Subgradient.Best

/-!
Steps of the subgradient method that fail. The best point is compared last, with a cost that has been
found at the new iterate, so that no failure costs the best point. The iterate is replaced before
its cost is known.
-/

set_option autoImplicit false

namespace ManifoldOpt

namespace Subgradient

open Attempt

variable {α : Type} [Scalar α] {problem : CostProblem α} {k : Int} {e : Fault α}

inductive Failure (problem : CostProblem α) (k : Int) (old : SubgradientState α)
    (left : Run α (SubgradientState α)) (e : Fault α) : Prop
  | subgradient {s t : Trail α}
    (failed : problem.subgradientInto old.direction old.point s = .error e t)
    (stays : left.own.point = old.point)
  | length {v : Tensor α} {s t : Stage α (Run α (SubgradientState α))}
    (taken : ∃ s t, problem.subgradientInto old.direction old.point s = .ok v t)
    (begun : s.state.own = { old with directionPoint := old.point, direction := v })
    (failed : stepLength problem.manifold k s = .error e t) (stays : left.own.point = old.point)
  | retraction {v : Tensor α} {length : α}
    (taken : ∃ s t, problem.subgradientInto old.direction old.point s = .ok v t)
    (failed : problem.manifold.retract old.point (v.scale (-length)) old.retraction = .error e)
    (stays : left.own.point = old.point)
  | cost {length : α} {s t : Trail α}
    (taken : ∃ s t, problem.subgradientInto old.direction old.point s = .ok left.own.direction t)
    (measured : left.lastStepsize = some length)
    (moved : problem.manifold.retract old.point (left.own.direction.scale (-length))
      old.retraction = .ok left.own.point)
    (failed : problem.costAt left.own.point s = .error e t)

theorem step_eq_error {best : α} {s t : Stage α (Run α (SubgradientState α))}
    (known : s.state.own.bestCost = some best) (failed : step problem k s = .error e t) :
    Failure problem k s.state.own t.state e ∧ t.state.own.best = s.state.own.best ∧
      t.state.own.bestCost = s.state.own.bestCost := by
  rw [step, Running.modifyOwn_bind, Running.getOwn_bind] at failed
  rcases bind_eq_error.mp failed with failed | ⟨v, _, called, failed⟩
  · obtain ⟨u, unknown, rfl⟩ := Stage.onTrail_eq_error.mp failed
    exact ⟨.subgradient unknown rfl, rfl, rfl⟩
  obtain ⟨u, taken, rfl⟩ := Stage.onTrail_eq_ok.mp called
  rw [Running.modifyOwn_bind] at failed
  rcases bind_eq_error.mp failed with failed | ⟨length, w, measured, failed⟩
  · obtain ⟨traces, left⟩ := (stepLength_keeps _ _ _).of_error ⟨_, rfl⟩ failed
    rw [left]
    exact ⟨.length ⟨_, _, taken⟩ rfl failed rfl, rfl, rfl⟩
  obtain ⟨traces, left⟩ := stepLength_state measured
  rw [Running.setStepsize_bind, Running.getOwn_bind] at failed
  rcases liftM_bind_eq_error.mp failed with ⟨unmoved, rfl⟩ | ⟨p, moved, failed⟩
  · rw [left] at unmoved ⊢
    exact ⟨.retraction ⟨_, _, taken⟩ unmoved rfl, rfl, rfl⟩
  rw [left] at moved
  rw [Running.modifyOwn_bind] at failed
  rcases bind_eq_error.mp failed with failed | ⟨cost, _, called, failed⟩
  · obtain ⟨u', uncosted, rfl⟩ := Stage.onTrail_eq_error.mp failed
    rw [left]
    exact ⟨.cost ⟨_, _, taken⟩ rfl moved uncosted, rfl, rfl⟩
  obtain ⟨u', -, rfl⟩ := Stage.onTrail_eq_ok.mp called
  -- With a cost to compare to, keeping the best point does not fail.
  have kept : w.state.own.bestCost = some best := by
    rw [left]
    exact known
  cases failed.symm.trans (keepBest_apply kept)

/-- Whatever fails in step `n + 1` of a run, its fault is the fault of the run, and the best point is
the earliest of the iterates up to iteration `n` whose cost is least. So are the count of iterations
and the records, and the iterate unless it is the cost of the next one that is missing. -/
theorem failed_step_keeps_best [Scalar.Ordered α] {recorder : Option (Recorder α)}
    {first : Stage α (Run α (SubgradientState α))} {n : Nat}
    {stages : Nat → Stage α (Run α (SubgradientState α))}
    {last : Stage α (Run α (SubgradientState α))}
    (broken : Solver.BreaksOff (solver problem) recorder first n stages e last) :
    Failure problem (n + 1) (stages n).state.own last.state e ∧
      (∀ allowance, n < allowance →
        (solver problem).solve allowance recorder first = .error e last) ∧
      (∃ costs i, BestFound problem stages n costs i ∧
        last.state.own.best = (stages i).state.own.point ∧
        last.state.own.bestCost = some (costs i)) ∧
      last.state.iteration = n ∧
      last.state.recorder = (stages n).state.recorder ∧
      ∀ r, (first.state.attach recorder).recorder = some r →
        ∃ kept, last.state.recorder = some kept ∧
          Recorded r.fields (Solver.views (solver problem) stages) (Solver.sizes stages) n kept := by
  have leaves := solver_leavesDriver problem
  obtain ⟨costs, i, bestFound⟩ := course_bestFound broken.course
  obtain ⟨t, memory, failed, same⟩ := broken.stepped
  have known : t.state.own.bestCost = some (costs i) := by rw [same]; exact bestFound.bestCost
  obtain ⟨failure, best, bestCost⟩ := step_eq_error known failed
  rw [same] at failure best
  refine ⟨failure, fun _ unspent => broken.solve_eq unspent, ⟨costs, i, bestFound, ?_, ?_⟩,
    broken.iteration_eq leaves, broken.recorder_eq leaves,
    fun r attached => broken.recorded leaves attached⟩
  · exact best.trans bestFound.best
  · exact bestCost.trans known

theorem failed_step_keeps_best_parabola :
    ∃ stages e last costs i,
      Solver.BreaksOff (solver guardedParabola) none (fromPoint 2 0.25 (.after 5)) 1 stages e last ∧
      (solver guardedParabola).solve 5 none (fromPoint 2 0.25 (.after 5)) = .error e last ∧
      last.state.own.best.entries = [1] ∧ last.state.own.point.entries = [0.5] ∧
      BestFound guardedParabola stages 1 costs i ∧
      last.state.own.best = (stages i).state.own.point ∧ last.state.iteration = 1 := by
  have failing : ((solver guardedParabola).brokenStep none (fromPoint 2 0.25 (.after 5)) 1).map
      (fun r => (r.2.state.own.best.entries, r.2.state.own.point.entries)) = some ([1], [0.5]) := by
    decide +kernel
  obtain ⟨⟨e, last⟩, failed, left⟩ := Option.map_eq_some_iff.mp failing
  obtain ⟨best, point⟩ := Prod.mk.inj left
  have broken := Solver.BreaksOff.of_brokenStep failed
  obtain ⟨-, solved, ⟨costs, i, bestFound, kept, -⟩, iteration, -⟩ := failed_step_keeps_best broken
  exact ⟨_, e, last, costs, i, broken, solved 5 (by decide), best, point, bestFound, kept, iteration⟩

end Subgradient

end ManifoldOpt
