import ManifoldOpt.Proofs.Newton.Modes
import ManifoldOpt.Proofs.Solver.History

set_option autoImplicit false

namespace ManifoldOpt

open Attempt

variable {α : Type} [Scalar α]

structure LinearState.AfterUse (r r' : Run α (LinearState α)) : Prop where
  stop : r.stop.AfterUse r'.stop
  method : r'.own.method = r.own.method
  tolerance : r'.own.tolerance = r.own.tolerance
  fields : r'.recorder.map Recorder.fields = r.recorder.map Recorder.fields
  lastStepsize : r'.lastStepsize = r.lastStepsize

inductive InnerRun.AfterUse : InnerRun α → InnerRun α → Prop
  | linear {r r' : Run α (LinearState α)} (used : LinearState.AfterUse r r') :
    AfterUse (.linear r) (.linear r')
  | counting (r r' : Run α (CountingState α)) : AfterUse (.counting r) (.counting r')

inductive Subsolver.AfterUse : Subsolver α → Subsolver α → Prop
  | allocating (f : DirectionFunction α) : AfterUse (.allocating f) (.allocating f)
  | inPlace (f : DirectionFunction α) : AfterUse (.inPlace f) (.inPlace f)
  | nested {e e' : NewtonEquation α} {inner inner' : InnerRun α} (check : e'.check = e.check)
    (used : inner.AfterUse inner') : AfterUse (.nested e inner) (.nested e' inner')

omit [Scalar α] in
theorem InnerRun.AfterUse.refl (inner : InnerRun α) : inner.AfterUse inner := by
  cases inner with
  | linear r => exact .linear ⟨.refl r.stop, rfl, rfl, rfl, rfl⟩
  | counting r => exact .counting r r

theorem Subsolver.AfterUse.refl (subsolver : Subsolver α) : subsolver.AfterUse subsolver := by
  cases subsolver with
  | allocating f => exact .allocating f
  | inPlace f => exact .inPlace f
  | nested e inner => exact .nested rfl (.refl inner)

theorem LinearState.solver_ages (r : Run α (LinearState α)) (e : NewtonEquation α) :
    (solver e).Preserves none (AfterUse r) := by
  let P (own : LinearState α) (size : Option α) : Prop :=
    own.method = r.own.method ∧ own.tolerance = r.own.tolerance ∧ size = r.lastStepsize
  have own : (solver e).Preserves none fun r' => P r'.own r'.lastStepsize :=
    Solver.preserves_own (keeps_pure _)
      fun k => step_keeps (I := fun r' => P r'.own r'.lastStepsize) fun _ _ _ before => before
  have stop : (solver e).Preserves none fun r' => r.stop.AfterUse r'.stop :=
    (solver_leavesDriver e).preserves_stop r.stop
  have fields := (solver_leavesDriver e).preserves_fields (r.recorder.map Recorder.fields)
  refine ((stop.and own).and fields).congr fun r' => ?_
  constructor
  · rintro ⟨⟨stop, method, tolerance, lastStepsize⟩, fields⟩
    exact ⟨stop, method, tolerance, fields, lastStepsize⟩
  · rintro ⟨stop, method, tolerance, fields, lastStepsize⟩
    exact ⟨⟨stop, method, tolerance, lastStepsize⟩, fields⟩

theorem InnerRun.solveFrom_ages (inner : InnerRun α) (e : NewtonEquation α) (p : Tensor α) :
    Keeps (fun s => inner.AfterUse s.state) (solveFrom e p) := by
  refine (keeps_liftM _).bind fun _ => ?_
  intro s before
  rw [Stage.getState_bind]
  cases given : s.state with
  | linear r =>
    have used : inner.AfterUse (.linear r) := given ▸ before
    cases used with
    | @linear r₀ _ used =>
      refine Stage.keeps_within_of (J := fun t => LinearState.AfterUse r₀ t.state) (fun _ _ => used)
        (fun _ _ _ after => .linear after) ?_ s before
      refine Keeps.bind (Running.keeps_modifyOwn fun r used => { used with }) fun _ => ?_
      refine ((LinearState.solver_ages r₀ e).solve _).bind fun _ => ?_
      refine (Running.keeps_getOwn _).bind fun own => ?_
      cases own.vector with
      | none => exact keeps_throw _
      | some v => exact keeps_pure v
  | counting r =>
    have used : inner.AfterUse (.counting r) := given ▸ before
    cases used with
    | counting r₀ =>
      exact Stage.keeps_within (I := InnerRun.AfterUse (.counting r₀))
        (fun r _ _ => .counting r₀ r) _ s
        before

theorem NewtonEquation.poseAt_keeps_check (check : ConditionCheck α) (problem : RootProblem α)
    (frame : Frame α) : Keeps (fun s => s.state.check = check) (poseAt problem frame) := by
  refine Keeps.bind (fun _ before => before) fun _ => ?_
  refine (Stage.keeps_onTrail (fun e : NewtonEquation α => e.check = check) _).bind fun system => ?_
  refine Keeps.bind (fun _ before => before) fun _ => Keeps.bind (fun _ before => before) fun e => ?_
  exact keeps_liftM _

namespace Newton

variable {problem : RootProblem α} {subsolver : Subsolver α}

theorem pose_eq_ok {frame : Frame α} {e e' : NewtonEquation α} {inner : InnerRun α}
    {s t : Stage α (Run α (NewtonState α))} (posed : pose problem frame e inner s = .ok e' t) :
    t.state.own.subsolver = .nested e' inner := by
  obtain ⟨_, u, called, rest⟩ := bind_eq_ok.mp posed
  obtain ⟨v, -, rfl⟩ := Stage.within_eq_ok.mp called
  cases rest
  rfl

theorem solveNested_ages {frame : Frame α} {e : NewtonEquation α} {inner : InnerRun α}
    (used : subsolver.AfterUse (.nested e inner)) :
    Keeps (fun s => subsolver.AfterUse s.state.own.subsolver) (solveNested problem frame e inner) := by
  cases used with
  | @nested e₀ _ inner₀ _ check used =>
    let I (r : Run α (NewtonState α)) : Prop := Subsolver.AfterUse (.nested e₀ inner₀) r.own.subsolver
    have posing : Keeps (fun s => I s.state) (pose problem frame e inner) := by
      refine Keeps.bind ?_ fun _ => (Running.keeps_getOwn I).bind fun own => ?_
      · exact Stage.keeps_within_of (J := fun t => t.state.check = e₀.check) (fun _ _ => check)
          (fun _ _ _ same => .nested same used)
          (NewtonEquation.poseAt_keeps_check e₀.check problem frame)
      · cases own.subsolver with
        | nested e' _ => exact keeps_pure e'
        | allocating f => exact keeps_pure e
        | inPlace f => exact keeps_pure e
    refine posing.bind_of_ok fun s e' t posed before => ?_
    -- The equation that has been posed is the one that the state holds by now.
    have held : Subsolver.AfterUse (.nested e₀ inner₀) (.nested e' inner) := pose_eq_ok posed ▸ before
    cases held with
    | nested check' _ =>
      have solving : Keeps (fun u => inner₀.AfterUse u.state)
          (InnerRun.solveFrom e' frame.point.zerosLike) := InnerRun.solveFrom_ages inner₀ e' _
      exact Keeps.left (Stage.keeps_within_of (I := fun u => I u.state) (fun _ _ => used)
        (fun _ _ _ after => .nested check' after) solving) before

theorem computeDirection_ages (subsolver : Subsolver α) (problem : RootProblem α) (k : Int) :
    Keeps (fun s => subsolver.AfterUse s.state.own.subsolver) (computeDirection problem k) := by
  let I (r : Run α (NewtonState α)) : Prop := subsolver.AfterUse r.own.subsolver
  intro s before
  rw [computeDirection, Running.getOwn_bind]
  cases given : s.state.own.subsolver with
  | nested e inner => exact solveNested_ages (given ▸ before) s before
  | allocating f => exact Stage.keeps_onTrail I _ s before
  | inPlace f => exact Stage.keeps_onTrail I _ s before

theorem solver_ages (subsolver : Subsolver α) (problem : RootProblem α)
    (cost : Option (Tensor α → Attempt α (Trail α) α)) (recorder : Option (Recorder α)) :
    (solver problem cost).Preserves recorder fun r => subsolver.AfterUse r.own.subsolver := by
  let P (own : NewtonState α) (_ : Option α) : Prop := subsolver.AfterUse own.subsolver
  have setUp : Keeps (fun s => P s.state.own s.state.lastStepsize) (solver problem cost).setUp :=
    Keeps.bind (Running.keeps_modifyOwn (I := fun r => P r.own r.lastStepsize)
      fun _ before => before) fun _ _ before => before
  refine Solver.preserves_own setUp fun k => ?_
  refine step_keeps (I := fun r => P r.own r.lastStepsize) (fun r own same before => ?_)
    (fun _ _ before => before) (computeDirection_ages subsolver problem k)
  change subsolver.AfterUse own.subsolver
  rw [same]
  exact before

def Solves (given : Solver α (NewtonState α)) : Prop :=
  ∃ problem cost, given = solver problem cost

theorem history_ages {first r : Run α (NewtonState α)}
    (history : Run.History Solves NewtonState.replacePoint first r) :
    first.stop.AfterUse r.stop ∧ first.own.subsolver.AfterUse r.own.subsolver := by
  constructor
  · refine history.used ?_
    rintro _ ⟨problem, cost, rfl⟩
    exact solver_leavesDriver problem cost
  · refine history.keeps (I := fun r => first.own.subsolver.AfterUse r.own.subsolver) ?_ ?_
      (fun _ _ _ _ before => before) (.refl _)
    · rintro _ recorder ⟨problem, cost, rfl⟩
      exact solver_ages _ problem cost recorder
    · intro r p own before replaced
      obtain ⟨q, -, rest⟩ := Outcome.bind_eq_ok.mp replaced
      cases rest
      exact before

end Newton

end ManifoldOpt
