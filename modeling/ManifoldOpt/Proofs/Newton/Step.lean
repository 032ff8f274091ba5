import ManifoldOpt.Proofs.Newton.Direction
import ManifoldOpt.Proofs.Solver.Course

set_option autoImplicit false

namespace ManifoldOpt

namespace Newton

open Attempt

variable {α : Type} [Scalar α] {problem : RootProblem α} {k : Int}

structure SameMove (r r' : Run α (NewtonState α)) : Prop where
  point : r'.own.point = r.own.point
  direction : r'.own.direction = r.own.direction
  retraction : r'.own.retraction = r.own.retraction

theorem SameMove.refl (r : Run α (NewtonState α)) : SameMove r r := ⟨rfl, rfl, rfl⟩

theorem computeDirection_keeps_move (r : Run α (NewtonState α)) :
    Keeps (fun s => SameMove r s.state) (computeDirection problem k) := by
  refine Keeps.of_related (fun s => computeDirection_keeps s.state k)
    (fun s => ⟨s.state.own.subsolver, rfl⟩) ?_
  rintro s t before ⟨subsolver, same⟩
  rw [same]
  exact { before with }

theorem stepLength_keeps_move (r : Run α (NewtonState α)) :
    Keeps (fun s => SameMove r s.state) (stepLength problem k) :=
  stepLength_keeps (fun _ _ _ _ _ same => { same with }) (computeDirection_keeps_move r)

/-- Step `k` computes the direction `v` at the iterate and goes along it by `length`. -/
structure Advance (problem : RootProblem α) (k : Int) (old new : NewtonState α) (v : Tensor α)
    (length : α) : Prop where
  solved : ∃ s t, computeDirection problem k s = .ok v t ∧ s.state.own = { old with isSame := true }
  shown : new.direction = v
  moved : problem.manifold.retract old.point (v.scale length) old.retraction = .ok new.point

theorem step_eq_ok {s t : Stage α (Run α (NewtonState α))} (done : step problem k s = .ok () t) :
    ∃ v length, Advance problem k s.state.own t.state.own v length ∧
      t.state.lastStepsize = some length := by
  obtain ⟨_, _, noted, rest⟩ := bind_eq_ok.mp done
  cases noted
  obtain ⟨v, u, solved, rest⟩ := bind_eq_ok.mp rest
  obtain ⟨subsolver, left⟩ := computeDirection_state solved
  obtain ⟨_, _, noted, rest⟩ := bind_eq_ok.mp rest
  cases noted
  obtain ⟨length, w, measured, rest⟩ := bind_eq_ok.mp rest
  have same := (stepLength_keeps_move _).of_ok (.refl _) measured
  obtain ⟨_, _, noted, rest⟩ := bind_eq_ok.mp rest
  cases noted
  obtain ⟨_, _, read, rest⟩ := bind_eq_ok.mp rest
  cases read
  obtain ⟨_, _, reported, rest⟩ := bind_eq_ok.mp rest
  cases reported
  obtain ⟨p, moved, rest⟩ := liftM_bind_eq_ok.mp rest
  cases rest
  have kept : u.state.own.point = s.state.own.point ∧
      u.state.own.retraction = s.state.own.retraction := by
    rw [left]
    exact ⟨rfl, rfl⟩
  have point : w.state.own.point = s.state.own.point := same.point.trans kept.1
  have direction : w.state.own.direction = v := same.direction
  have retraction : w.state.own.retraction = s.state.own.retraction :=
    same.retraction.trans kept.2
  refine ⟨v, length, ⟨⟨_, u, solved, rfl⟩, direction, ?_⟩, rfl⟩
  rw [← point, ← direction, ← retraction]
  exact moved

theorem course_advance {cost : Option (Tensor α → Attempt α (Trail α) α)}
    {recorder : Option (Recorder α)} {first : Stage α (Run α (NewtonState α))} {n : Nat}
    {stages : Nat → Stage α (Run α (NewtonState α))}
    (course : Solver.Course (solver problem cost) recorder first n stages) {j : Nat}
    (inside : j < n) :
    ∃ v length, Advance problem (j + 1) (stages j).state.own (stages (j + 1)).state.own v length ∧
      (stages (j + 1)).state.lastStepsize = some length := by
  obtain ⟨t, u, memory, kept, stepped, asked, reached⟩ := course.stepped inside
  obtain ⟨v, length, advance, noted⟩ := step_eq_ok stepped
  refine ⟨v, length, ?_, ?_⟩
  · rw [asked] at advance
    rw [reached]
    exact advance
  · rw [reached]
    exact noted

end Newton

end ManifoldOpt
