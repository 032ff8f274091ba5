import ManifoldOpt.Proofs.Damping.Coupling
import ManifoldOpt.Proofs.Solver.Course
import ManifoldOpt.Subgradient

set_option autoImplicit false

namespace ManifoldOpt

def StartPoint.posed {α : Type} [Scalar α] (problem : CostProblem α) : StartPoint α → CostProblem α
  | .array _ => problem
  | .number _ => Subgradient.liftNumbers problem
  | .random _ => problem

namespace Subgradient

open Attempt

variable {α : Type} [Scalar α] {problem : CostProblem α}

def SameButTraces (r r' : Run α (SubgradientState α)) : Prop :=
  ∃ traces, r' = { r with own := { r.own with traces } }

omit [Scalar α] in
theorem notes_respect (r : Run α (SubgradientState α)) :
    SubgradientState.notes.Respect fun s t => s = t ∧ SameButTraces r s.state where
  alpha a := keeps_iff_couples.mp <| Running.keeps_modifyOwn fun _ ⟨traces, same⟩ =>
    ⟨{ traces with alpha := some a }, by rw [same]; rfl⟩
  theta t := keeps_iff_couples.mp <| Running.keeps_modifyOwn fun _ ⟨traces, same⟩ =>
    ⟨{ traces with theta := some t }, by rw [same]; rfl⟩
  same b := keeps_iff_couples.mp <| Running.keeps_modifyOwn fun _ ⟨traces, same⟩ =>
    ⟨{ traces with isSame := some b }, by rw [same]; rfl⟩
  trial p := keeps_iff_couples.mp <| Running.keeps_modifyOwn fun _ ⟨traces, same⟩ =>
    ⟨{ traces with trial := some p }, by rw [same]; rfl⟩
  emit event := keeps_iff_couples.mp (Stage.keeps_emit _ event)

theorem stepLength_keeps (r : Run α (SubgradientState α)) (M : Manifold α) (k : Int) :
    Keeps (fun s => SameButTraces r s.state) (stepLength M k) := by
  refine (Running.keeps_getOwn _).bind fun s => ?_
  cases s.stepsize with
  | rule rule => exact keeps_liftM _
  | damped d =>
    exact keeps_iff_couples.mpr (DampingSearch.run_couples (notes_respect r) (couples_throw _) d)
  | inert v => exact keeps_throw _

theorem stepLength_state {M : Manifold α} {k : Int} {s t : Stage α (Run α (SubgradientState α))}
    {length : α} (done : stepLength M k s = .ok length t) : SameButTraces s.state t.state :=
  (stepLength_keeps s.state M k).of_ok ⟨s.state.own.traces, rfl⟩ done

theorem setUp_eq_ok {s t : Stage α (Run α (SubgradientState α))}
    (done : setUp problem s = .ok () t) :
    ∃ cost trail, problem.costAt s.state.own.point s.trail = .ok cost trail ∧
      t.state = { s.state with
        lastStepsize := none
        own := { s.state.own with
          best := s.state.own.point, bestCost := some cost
          directionPoint := s.state.own.point, direction := s.state.own.point.zerosLike } } := by
  obtain ⟨_, _, reset, rest⟩ := bind_eq_ok.mp done
  cases reset
  obtain ⟨_, _, read, rest⟩ := bind_eq_ok.mp rest
  cases read
  obtain ⟨cost, _, called, rest⟩ := bind_eq_ok.mp rest
  obtain ⟨trail, evaluated, rfl⟩ := Stage.onTrail_eq_ok.mp called
  obtain ⟨_, _, noted, rest⟩ := bind_eq_ok.mp rest
  cases noted
  cases rest
  exact ⟨cost, trail, evaluated, rfl⟩

theorem setUp_apply {s : Stage α (Run α (SubgradientState α))} {cost : α} {trail : Trail α}
    (evaluated : problem.costAt s.state.own.point s.trail = .ok cost trail) :
    setUp problem s = .ok () ⟨trail, { s.state with
      lastStepsize := none
      own := { s.state.own with
        best := s.state.own.point, bestCost := some cost
        directionPoint := s.state.own.point, direction := s.state.own.point.zerosLike } }⟩ := by
  refine bind_eq_ok.mpr ⟨_, _, rfl, bind_eq_ok.mpr ⟨_, _, rfl, ?_⟩⟩
  refine bind_eq_ok.mpr ⟨_, _, Stage.onTrail_eq_ok.mpr ⟨_, evaluated, rfl⟩, ?_⟩
  exact bind_eq_ok.mpr ⟨_, _, rfl, rfl⟩

theorem keepBest_apply {cost best : α} {s : Stage α (Run α (SubgradientState α))}
    (known : s.state.own.bestCost = some best) :
    keepBest cost s = .ok () { s with state := { s.state with
      own := { s.state.own with
        best := if cost < best then s.state.own.point else s.state.own.best
        bestCost := some (if cost < best then cost else best) } } } := by
  rw [keepBest, Running.getOwn_bind, known]
  by_cases lower : cost < best
  · simp only [lower, if_true]
    rfl
  · simp only [lower, if_false, ← known]
    rfl

theorem keepBest_eq_ok {cost : α} {s t : Stage α (Run α (SubgradientState α))}
    (done : keepBest cost s = .ok () t) :
    ∃ best, s.state.own.bestCost = some best ∧
      t.state = { s.state with
        own := { s.state.own with
          best := if cost < best then s.state.own.point else s.state.own.best
          bestCost := some (if cost < best then cost else best) } } := by
  cases known : s.state.own.bestCost with
  | none =>
    obtain ⟨_, _, read, rest⟩ := bind_eq_ok.mp done
    cases read
    rw [known] at rest
    exact absurd rest throw_ne_ok
  | some best =>
    -- Both branches write the same two fields.
    rw [keepBest_apply known] at done
    cases done
    exact ⟨best, rfl, rfl⟩

/-- Step `k` takes the subgradient `v` at the iterate, goes by `length` against it to `p` and
compares the cost there with the best one. -/
structure Advance (problem : CostProblem α) (k : Int) (old new : SubgradientState α)
    (v p : Tensor α) (length cost best : α) : Prop where
  taken : ∃ s t, problem.subgradientInto old.direction old.point s = .ok v t
  measured : ∃ s t, stepLength problem.manifold k s = .ok length t ∧
    s.state.own = { old with directionPoint := old.point, direction := v }
  moved : problem.manifold.retract old.point (v.scale (-length)) old.retraction = .ok p
  evaluated : ∃ s t, problem.costAt p s = .ok cost t
  known : old.bestCost = some best
  left : ∃ traces, new =
    { old with
      point := p, direction := v, directionPoint := old.point, traces
      best := if cost < best then p else old.best
      bestCost := some (if cost < best then cost else best) }

theorem step_eq_ok {k : Int} {s t : Stage α (Run α (SubgradientState α))}
    (done : step problem k s = .ok () t) :
    ∃ v p length cost best, Advance problem k s.state.own t.state.own v p length cost best ∧
      t.state = { s.state with own := t.state.own, lastStepsize := some length } := by
  obtain ⟨_, _, noted, rest⟩ := bind_eq_ok.mp done
  cases noted
  obtain ⟨_, _, read, rest⟩ := bind_eq_ok.mp rest
  cases read
  obtain ⟨v, _, called, rest⟩ := bind_eq_ok.mp rest
  obtain ⟨trail, taken, rfl⟩ := Stage.onTrail_eq_ok.mp called
  obtain ⟨_, _, noted, rest⟩ := bind_eq_ok.mp rest
  cases noted
  obtain ⟨length, u, measured, rest⟩ := bind_eq_ok.mp rest
  -- A damping search leaves traces, which none of the calls after it looks at.
  obtain ⟨traces, kept⟩ := stepLength_state measured
  obtain ⟨_, _, noted, rest⟩ := bind_eq_ok.mp rest
  cases noted
  obtain ⟨_, _, read, rest⟩ := bind_eq_ok.mp rest
  cases read
  obtain ⟨p, moved, rest⟩ := liftM_bind_eq_ok.mp rest
  obtain ⟨_, _, noted, rest⟩ := bind_eq_ok.mp rest
  cases noted
  obtain ⟨cost, _, called, rest⟩ := bind_eq_ok.mp rest
  obtain ⟨trail', evaluated, rfl⟩ := Stage.onTrail_eq_ok.mp called
  obtain ⟨best, known, left⟩ := keepBest_eq_ok rest
  simp only [kept] at moved known left
  refine ⟨v, p, length, cost, best, ⟨⟨_, _, taken⟩, ⟨_, _, measured, rfl⟩, moved, ⟨_, _, evaluated⟩,
    known, traces, ?_⟩, ?_⟩
  · rw [left]
  · rw [left]

theorem step_of_calls {k : Int} {s u : Stage α (Run α (SubgradientState α))} {v p : Tensor α}
    {length cost best : α} {trail trail' : Trail α}
    (taken : problem.subgradientInto s.state.own.direction s.state.own.point s.trail = .ok v trail)
    (measured : stepLength problem.manifold k ⟨trail, { s.state with
      own := { s.state.own with directionPoint := s.state.own.point, direction := v } }⟩ =
        .ok length u)
    (moved : problem.manifold.retract u.state.own.point (u.state.own.direction.scale (-length))
      u.state.own.retraction = .ok p)
    (evaluated : problem.costAt p u.trail = .ok cost trail')
    (known : u.state.own.bestCost = some best) :
    step problem k s = .ok () ⟨trail', { u.state with
      lastStepsize := some length
      own := { u.state.own with
        point := p
        best := if cost < best then p else u.state.own.best
        bestCost := some (if cost < best then cost else best) } }⟩ := by
  refine bind_eq_ok.mpr ⟨_, _, rfl, bind_eq_ok.mpr ⟨_, _, rfl, ?_⟩⟩
  refine bind_eq_ok.mpr ⟨_, _, Stage.onTrail_eq_ok.mpr ⟨_, taken, rfl⟩, ?_⟩
  refine bind_eq_ok.mpr ⟨_, _, rfl, bind_eq_ok.mpr ⟨_, _, measured, ?_⟩⟩
  refine bind_eq_ok.mpr ⟨_, _, rfl, bind_eq_ok.mpr ⟨_, _, rfl, ?_⟩⟩
  refine liftM_bind_eq_ok.mpr ⟨_, moved, ?_⟩
  refine bind_eq_ok.mpr ⟨_, _, rfl, ?_⟩
  refine bind_eq_ok.mpr ⟨_, _, Stage.onTrail_eq_ok.mpr ⟨_, evaluated, rfl⟩, ?_⟩
  exact keepBest_apply known

section Course

variable {recorder : Option (Recorder α)} {first : Stage α (Run α (SubgradientState α))} {n : Nat}
  {stages : Nat → Stage α (Run α (SubgradientState α))}

theorem prepared_own (prepared : (solver problem).prepare recorder first = .ok () (stages 0)) :
    ∃ s cost t, problem.costAt first.state.own.point s = .ok cost t ∧
      (stages 0).state.own = { first.state.own with
        best := first.state.own.point, bestCost := some cost
        directionPoint := first.state.own.point, direction := first.state.own.point.zerosLike } := by
  obtain ⟨r, u, kept, set, reached⟩ := Solver.prepare_state prepared
  obtain ⟨cost, trail, evaluated, left⟩ := setUp_eq_ok set
  refine ⟨_, cost, trail, evaluated, ?_⟩
  rw [reached, left]

theorem course_start (course : Solver.Course (solver problem) recorder first n stages) :
    (stages 0).state.own.point = first.state.own.point := by
  obtain ⟨s, cost, t, evaluated, own⟩ := prepared_own course.prepared
  rw [own]

theorem course_advance (course : Solver.Course (solver problem) recorder first n stages) {k : Nat}
    (inside : k < n) :
    ∃ v p length cost best,
      Advance problem (k + 1) (stages k).state.own (stages (k + 1)).state.own v p length cost best ∧
        (stages (k + 1)).state.lastStepsize = some length := by
  obtain ⟨t, u, memory, kept, stepped, asked, reached⟩ := course.stepped inside
  obtain ⟨v, p, length, cost, best, advance, left⟩ := step_eq_ok stepped
  refine ⟨v, p, length, cost, best, ?_, ?_⟩
  · rw [asked] at advance
    rw [reached]
    exact advance
  · rw [reached, left]

end Course

end Subgradient

end ManifoldOpt
