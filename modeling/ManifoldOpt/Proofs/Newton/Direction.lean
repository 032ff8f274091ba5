import ManifoldOpt.Newton.Method
import ManifoldOpt.Proofs.Damping.Coupling

set_option autoImplicit false

namespace ManifoldOpt

namespace Newton

open Attempt

variable {α : Type} [Scalar α] {problem : RootProblem α}

def SameButSubsolver (r r' : Run α (NewtonState α)) : Prop :=
  ∃ subsolver, r' = { r with own := { r.own with subsolver } }

theorem pose_keeps (r : Run α (NewtonState α)) (frame : Frame α) (equation : NewtonEquation α)
    (inner : InnerRun α) :
    Keeps (fun s => SameButSubsolver r s.state) (pose problem frame equation inner) := by
  refine (Stage.keeps_within ?_ _).bind fun _ => (Running.keeps_getOwn _).bind fun s => ?_
  · rintro e _ ⟨_, rfl⟩
    exact ⟨.nested e inner, rfl⟩
  · cases s.subsolver with
    | nested e _ => exact keeps_pure e
    | allocating f => exact keeps_pure equation
    | inPlace f => exact keeps_pure equation

theorem solveNested_keeps (r : Run α (NewtonState α)) (frame : Frame α)
    (equation : NewtonEquation α) (inner : InnerRun α) :
    Keeps (fun s => SameButSubsolver r s.state) (solveNested problem frame equation inner) := by
  refine (pose_keeps r frame equation inner).bind fun e => Stage.keeps_within ?_ _
  rintro inner _ ⟨_, rfl⟩
  exact ⟨.nested e inner, rfl⟩

theorem computeDirection_keeps (r : Run α (NewtonState α)) (k : Int) :
    Keeps (fun s => SameButSubsolver r s.state) (computeDirection problem k) := by
  refine (Running.keeps_getOwn _).bind fun s => ?_
  cases s.subsolver with
  | nested equation inner => exact solveNested_keeps r _ equation inner
  | allocating f => exact Stage.keeps_onTrail _ _
  | inPlace f => exact Stage.keeps_onTrail _ _

theorem computeDirection_state {k : Int} {s t : Stage α (Run α (NewtonState α))} {v : Tensor α}
    (done : computeDirection problem k s = .ok v t) : SameButSubsolver s.state t.state :=
  (computeDirection_keeps s.state k).of_ok ⟨s.state.own.subsolver, rfl⟩ done

variable {I : Run α (NewtonState α) → Prop} {k : Int}

theorem notes_keep
    (noted : ∀ r alpha theta isSame trial, I r →
      I { r with own := { r.own with alpha, theta, isSame, trial } }) :
    NewtonState.notes.Respect fun s t => s = t ∧ I s.state where
  alpha _ := keeps_iff_couples.mp <| Running.keeps_modifyOwn fun r => noted r _ _ _ _
  theta _ := keeps_iff_couples.mp <| Running.keeps_modifyOwn fun r => noted r _ _ _ _
  same _ := keeps_iff_couples.mp <| Running.keeps_modifyOwn fun r => noted r _ _ _ _
  trial _ := keeps_iff_couples.mp <| Running.keeps_modifyOwn fun r => noted r _ _ _ _
  emit event := keeps_iff_couples.mp (Stage.keeps_emit I event)

theorem stepLength_keeps
    (noted : ∀ r alpha theta isSame trial, I r →
      I { r with own := { r.own with alpha, theta, isSame, trial } })
    (computed : Keeps (fun s => I s.state) (computeDirection problem k)) :
    Keeps (fun s => I s.state) (stepLength problem k) := by
  refine (Running.keeps_getOwn _).bind fun s => ?_
  cases s.stepsize with
  | rule rule => exact keeps_liftM _
  | damped d =>
    exact keeps_iff_couples.mpr
      (DampingSearch.run_couples (notes_keep noted) (keeps_iff_couples.mp computed) d)
  | inert v => exact keeps_throw _

theorem step_keeps
    (noted : ∀ r own, own.subsolver = r.own.subsolver → I r → I { r with own })
    (measured : ∀ r size, I r → I { r with lastStepsize := size })
    (computed : Keeps (fun s => I s.state) (computeDirection problem k)) :
    Keeps (fun s => I s.state) (step problem k) := by
  have changed {f : NewtonState α → NewtonState α} (same : ∀ s, (f s).subsolver = s.subsolver) :
      Keeps (fun s => I s.state) (Running.modifyOwn f) :=
    Running.keeps_modifyOwn fun r => noted r _ (same r.own)
  refine (changed (by intro; rfl)).bind fun _ => computed.bind fun v => ?_
  refine (changed (by intro; rfl)).bind fun _ => ?_
  refine (stepLength_keeps (fun r _ _ _ _ => noted r _ rfl) computed).bind fun length => ?_
  refine Keeps.bind (fun s before => measured s.state _ before) fun _ => ?_
  refine (Running.keeps_getOwn _).bind fun s => (Stage.keeps_emit _ _).bind fun _ => ?_
  exact (keeps_liftM _).bind fun p => changed (by intro; rfl)

end Newton

end ManifoldOpt
