import ManifoldOpt.Proofs.Damping.Failure
import ManifoldOpt.Proofs.Newton.Agreement
import ManifoldOpt.Proofs.Newton.Cause
import ManifoldOpt.Proofs.Newton.Damping

set_option autoImplicit false

namespace ManifoldOpt

namespace Newton

open Attempt

variable {α : Type} [Scalar α] {problem : RootProblem α} {k : Int} {e : Fault α}

/-- A run that is about to go from the point of `old` along `v`. -/
def HasDirection (old : NewtonState α) (v : Tensor α) (r : Run α (NewtonState α)) : Prop :=
  r.own.point = old.point ∧ r.own.direction = v ∧ r.own.stepsize = old.stepsize ∧
    r.own.retraction = old.retraction

inductive LengthFailure (problem : RootProblem α) (k : Int) (old : NewtonState α) (v : Tensor α)
    (e : Fault α) : Prop
  | rule {rule : StepRule α} (chosen : old.stepsize = .rule rule)
    (failed : rule.lengthAt problem.manifold old.point v (.int k) = .error e)
  | inert {x : Literal α} (chosen : old.stepsize = .inert x) (given : e = .notNumber)
  | search {d : Damping α} (chosen : old.stepsize = .damped d)
    (cause : (dampingSearch problem k { old with direction := v }).Failure d (HasDirection old v)
      (fun s => DirectionFailure problem k s.state.own s.trail e) e)

/-- What step `k` from the state `old` fails of: the direction, the length of the step along it, or
the retraction by this length. -/
inductive Failure (problem : RootProblem α) (k : Int) (old : NewtonState α) (e : Fault α) : Prop
  | direction {s t : Stage α (Run α (NewtonState α))}
    (begun : s.state.own = { old with isSame := true })
    (failed : computeDirection problem k s = .error e t)
    (cause : DirectionFailure problem k s.state.own s.trail e)
  | length {v : Tensor α} {s t : Stage α (Run α (NewtonState α))}
    (begun : s.state.own = { old with isSame := true })
    (solved : computeDirection problem k s = .ok v t) (cause : LengthFailure problem k old v e)
  | retraction {v : Tensor α} {length : α} {s t u w : Stage α (Run α (NewtonState α))}
    (begun : s.state.own = { old with isSame := true })
    (solved : computeDirection problem k s = .ok v t) (hasDirection : HasDirection old v u.state)
    (measured : stepLength problem k u = .ok length w)
    (failed : problem.manifold.retract old.point (v.scale length) old.retraction = .error e)

theorem HasDirection.of_computed {old : NewtonState α} {v w : Tensor α}
    {s t : Stage α (Run α (NewtonState α))} (begun : s.state.own = { old with isSame := true })
    (computed : computeDirection problem k s = .ok w t) :
    HasDirection old v { t.state with own := { t.state.own with direction := v } } := by
  obtain ⟨subsolver, left⟩ := computeDirection_state computed
  rw [left, begun]
  exact ⟨rfl, rfl, rfl, rfl⟩

section HasDirection

variable {old : NewtonState α} {v : Tensor α}

theorem HasDirection.noted (r : Run α (NewtonState α)) (alpha theta : α) (isSame : Bool)
    (trial : Tensor α) (hasDirection : HasDirection old v r) :
    HasDirection old v { r with own := { r.own with alpha, theta, isSame, trial } } := hasDirection

theorem computeDirection_keeps_hasDirection :
    Keeps (fun s => HasDirection old v s.state) (computeDirection problem k) := by
  refine Keeps.of_related (fun s => computeDirection_keeps s.state k)
    (fun s => ⟨s.state.own.subsolver, rfl⟩) ?_
  rintro s t before ⟨subsolver, same⟩
  rw [same]
  exact before

theorem stepLength_keeps_hasDirection :
    Keeps (fun s => HasDirection old v s.state) (stepLength problem k) :=
  stepLength_keeps HasDirection.noted computeDirection_keeps_hasDirection

theorem stepLength_eq_error {s t : Stage α (Run α (NewtonState α))}
    (hasDirection : HasDirection old v s.state) (failed : stepLength problem k s = .error e t) :
    LengthFailure problem k old v e := by
  have ⟨point, direction, stepsize, retraction⟩ := hasDirection
  rw [stepLength, Running.getOwn_bind] at failed
  cases chosen : s.state.own.stepsize with
  | rule rule =>
    rw [chosen, point, direction] at failed
    exact .rule (stepsize ▸ chosen) (liftM_eq_error.mp failed).1
  | inert x =>
    rw [chosen] at failed
    cases failed
    exact .inert (stepsize ▸ chosen) rfl
  | damped d =>
    rw [chosen, point, direction, retraction] at failed
    have searched : (dampingSearch problem k { old with direction := v }).run d s = .error e t :=
      failed
    exact .search (stepsize ▸ chosen) (DampingSearch.run_eq_error (notes_keep HasDirection.noted)
      (fun _ _ => computeDirection_eq_error) hasDirection computeDirection_keeps_hasDirection searched)

end HasDirection

theorem step_eq_error {s t : Stage α (Run α (NewtonState α))}
    (failed : step problem k s = .error e t) :
    Failure problem k s.state.own e ∧ t.state.own.point = s.state.own.point := by
  rw [step, Running.modifyOwn_bind] at failed
  rcases bind_eq_error.mp failed with failed | ⟨v, u, solved, failed⟩
  · have kept := (computeDirection_keeps_move _).of_error (.refl _) failed
    exact ⟨.direction rfl failed (computeDirection_eq_error failed), kept.point⟩
  have hasDirection := HasDirection.of_computed (v := v) rfl solved
  rw [Running.modifyOwn_bind] at failed
  rcases bind_eq_error.mp failed with failed | ⟨length, w, measured, failed⟩
  · have ⟨point, _⟩ := stepLength_keeps_hasDirection.of_error hasDirection failed
    exact ⟨.length rfl solved (stepLength_eq_error hasDirection failed), point⟩
  obtain ⟨point, direction, -, retraction⟩ := stepLength_keeps_hasDirection.of_ok hasDirection measured
  -- What is left to fail is the retraction, after which the iterate is replaced.
  rw [Running.setStepsize_bind, Running.getOwn_bind] at failed
  rcases bind_eq_error.mp failed with impossible | ⟨_, _, emitted, failed⟩
  · cases impossible
  cases emitted
  rcases liftM_bind_eq_error.mp failed with ⟨unreached, rfl⟩ | ⟨p, -, impossible⟩
  · have unmoved : problem.manifold.retract s.state.own.point (v.scale length)
        s.state.own.retraction = .error e := by
      rw [← point, ← direction, ← retraction]
      exact unreached
    exact ⟨.retraction rfl solved hasDirection measured unmoved, point⟩
  · cases impossible

/-- A step fails of an operation that it asks for, be it a function of the caller, and the fault that
this one gives is the fault of the run. The iterate is that after `n` iterations, and so are the count
of iterations and the records. -/
theorem failed_step_keeps_iterate {cost : Option (Tensor α → Attempt α (Trail α) α)}
    {recorder : Option (Recorder α)} {first : Stage α (Run α (NewtonState α))} {n : Nat}
    {stages : Nat → Stage α (Run α (NewtonState α))} {last : Stage α (Run α (NewtonState α))}
    (broken : Solver.BreaksOff (solver problem cost) recorder first n stages e last) :
    Failure problem (n + 1) (stages n).state.own e ∧
      (∀ allowance, n < allowance →
        (solver problem cost).solve allowance recorder first = .error e last) ∧
      last.state.own.point = (stages n).state.own.point ∧
      last.state.iteration = n ∧
      last.state.recorder = (stages n).state.recorder ∧
      ∀ r, (first.state.attach recorder).recorder = some r →
        ∃ kept, last.state.recorder = some kept ∧
          Recorded r.fields (Solver.views (solver problem cost) stages) (Solver.sizes stages) n
            kept := by
  have leaves := solver_leavesDriver problem cost
  obtain ⟨t, memory, failed, same⟩ := broken.stepped
  obtain ⟨failure, point⟩ := step_eq_error failed
  rw [same] at failure point
  exact ⟨failure, fun _ unspent => broken.solve_eq unspent, point, broken.iteration_eq leaves,
    broken.recorder_eq leaves, fun r attached => broken.recorded leaves attached⟩

-- Half the way to zero, for three calls only.
def shortLived : DirectionFunction Float where
  name := "short-lived"
  description := .string "short-lived"
  allocating _ frame _ := do
    if 3 < (← Trail.count 0) then throw (.callback "no direction")
    else return some (frame.evaluationPoint.scale (-0.5))
  inPlace _ _ _ _ := throw .argumentCount

def dampedFromOne : Run Float (NewtonState Float) where
  stop := .after 5
  own := .start (euclidean [1]) (.tangent (euclidean [1])) (.vector [1]) (.allocating shortLived)
    none none .none .none

def raised? : Fault α → Option String
  | .callback message => some message
  | _ => none

omit [Scalar α] in
theorem raised?_eq_some {message : String} (raised : raised? e = some message) :
    e = .callback message := by
  unfold raised? at raised
  split at raised
  · cases raised
    rfl
  · cases raised

theorem failed_step_keeps_iterate_trial :
    ∃ stages last,
      Solver.BreaksOff (solver arctanOnLine none) (some (.ofFields [.iterate])) ⟨{}, dampedFromOne⟩
        1 stages (.callback "no direction") last ∧
      Failure arctanOnLine 2 (stages 1).state.own (.callback "no direction") ∧
      (solver arctanOnLine none).solve 5 (some (.ofFields [.iterate])) ⟨{}, dampedFromOne⟩ =
        .error (.callback "no direction") last ∧
      last.state.own.trial.entries = [0.25] ∧ last.state.own.isSame = false ∧
      last.state.own.point = (stages 1).state.own.point ∧ last.state.iteration = 1 := by
  have failing : ((solver arctanOnLine none).brokenStep (some (.ofFields [.iterate]))
      ⟨{}, dampedFromOne⟩ 1).map (fun r =>
        (raised? r.1, r.2.state.own.trial.entries, r.2.state.own.isSame)) =
      some (some "no direction", [0.25], false) := by
    decide +kernel
  obtain ⟨⟨e, last⟩, failed, left⟩ := Option.map_eq_some_iff.mp failing
  obtain ⟨message, left⟩ := Prod.mk.inj left
  obtain ⟨trial, same⟩ := Prod.mk.inj left
  obtain rfl := raised?_eq_some message
  have broken := Solver.BreaksOff.of_brokenStep failed
  obtain ⟨failure, solved, point, iteration, -⟩ := failed_step_keeps_iterate broken
  exact ⟨_, last, broken, failure, solved 5 (by decide), trial, same, point, iteration⟩

end Newton

end ManifoldOpt
