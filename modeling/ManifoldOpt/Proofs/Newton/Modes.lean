import ManifoldOpt.Newton.Method
import ManifoldOpt.Proofs.Newton.Inner

/-!
The ways to have the Newton equation solved directly: by a function that allocates the direction, by
one that fills a buffer, and by running the solver of the equation in coordinates. From whatever
stage of a run, they give the direction that solving the equation at once gives.
-/

set_option autoImplicit false

namespace ManifoldOpt

variable {α : Type} [Scalar α]

open Attempt

inductive Subsolver.Direct : Subsolver α → Prop
  | allocating {f : DirectionFunction α} (rule : f.allocating = Subsolver.direct) :
    Direct (.allocating f)
  | inPlace {f : DirectionFunction α} (rule : f.inPlace = Subsolver.directInto) :
    Direct (.inPlace f)
  | nested {e : NewtonEquation α} {r : Run α (LinearState α)} (unchecked : e.check.wanted = false)
    (direct : LinearState.Direct r) : Direct (.nested e (.linear r))

theorem InnerRun.solveFrom_agrees {e : NewtonEquation α} {problem : RootProblem α}
    {base p : Tensor α} {system : NewtonSystem α} {m count : Nat} {r : Run α (LinearState α)}
    {s u : Trail α} (posed : e.Posed problem base system m count) (direct : LinearState.Direct r)
    (hp : p.shape = base.shape) (tally : s.tally = u.tally) :
    Agree (fun (t : Stage α (InnerRun α)) (u : Trail α) =>
        t.trail.tally = u.tally ∧ ∃ r', t.state = .linear r' ∧ LinearState.Direct r') Eq
      (InnerRun.solveFrom e p ⟨s, .linear r⟩)
      ((liftM (problem.answer base system) : Attempt α (Trail α) (Tensor α)) u) := by
  -- The run starts over from the given array, whatever vector the last one ended with.
  let started : Stage α (Run α (LinearState α)) :=
    ⟨s, { r with own := r.own.replaceVector p }⟩
  have direct' : LinearState.Direct started.state :=
    ⟨direct.method, direct.budget, direct.unrecorded⟩
  have agree := LinearState.solve_agrees (s := started) posed direct' rfl hp tally
  unfold InnerRun.solveFrom
  rw [posed.manifold_eq]
  change Agree _ Eq (Stage.within (fun _ => r) (fun r _ => linear r) _ ⟨s, linear r⟩) _
  refine Stage.agree_within agree ?_
  rintro t u ⟨tally, direct⟩
  exact ⟨tally, t.state, rfl, direct⟩

namespace RootProblem

variable {problem : RootProblem α} {base : Tensor α} {residual : Option (Tensor α)}
  {transport : Literal α}

theorem newtonVector_off :
    problem.newtonVector .off base residual transport = (do
      let system ← problem.newtonSystem base residual transport
      problem.answer base system) := by
  refine bind_congr fun system => ?_
  funext s
  unfold answer
  cases solveDirect system.matrix system.value with
  | ok c => rfl
  | error e => rfl

theorem shape_of_newtonVector {shape : Shape} (shaped : problem.manifold.Shaped shape)
    (inside : base.shape = shape) {s t : Trail α} {v : Tensor α}
    (solved : problem.newtonVector .off base residual transport s = .ok v t) : v.shape = shape := by
  rw [newtonVector_off] at solved
  obtain ⟨system, _, posed, answered⟩ := bind_eq_ok.mp solved
  obtain ⟨m, count, hsystem⟩ := problem.newtonSystem_shaped shaped inside posed
  obtain ⟨c, eliminated, combined⟩ := Outcome.bind_eq_ok.mp (liftM_eq_ok.mp answered).1
  obtain ⟨-, k, hc⟩ := shape_of_solveDirect hsystem.matrix eliminated
  exact shaped.vector inside hc hsystem.basis combined

end RootProblem

namespace NewtonEquation

variable {e : NewtonEquation α} {problem : RootProblem α} {frame : Frame α} {s t : Trail α}

theorem poseAt_of_system {system : NewtonSystem α}
    (given : problem.newtonSystem frame.point frame.residualPoint frame.transport s =
      .ok system t) :
    poseAt problem frame ⟨s, e⟩ =
      (liftM (e.check.run "NewtonEquationSubproblem" system.matrix) : Posing α Unit)
        ⟨t, { e with source := some (problem, frame.point), system := some system }⟩ := by
  refine (bind_of_ok rfl).trans ?_
  refine (bind_of_ok (Stage.onTrail_eq_ok.mpr ⟨t, given, rfl⟩)).trans ?_
  exact (bind_of_ok rfl).trans (Stage.getState_bind _ _)

theorem poseAt_error {fault : Fault α}
    (failed : problem.newtonSystem frame.point frame.residualPoint frame.transport s =
      .error fault t) :
    poseAt problem frame ⟨s, e⟩ =
      .error fault ⟨t, { e with source := some (problem, frame.point) }⟩ := by
  refine bind_eq_error.mpr (.inr ⟨(), _, rfl, bind_eq_error.mpr (.inl ?_)⟩)
  exact focus_eq_error.mpr ⟨t, failed, rfl⟩

end NewtonEquation

namespace Newton

variable {problem : RootProblem α} {s : Stage α (Run α (NewtonState α))} {u : Trail α}

/-- A run that differs from `r` at most in the sub-solver, which still solves directly, on a trail
that counts what the given one counts. -/
structure Resolved (r : Run α (NewtonState α)) (s : Stage α (Run α (NewtonState α)))
    (u : Trail α) : Prop where
  tally : s.trail.tally = u.tally
  state : ∃ subsolver, Subsolver.Direct subsolver ∧
    s.state = { r with own := { r.own with subsolver } }

section Posing

variable {frame : Frame α} {e : NewtonEquation α} {inner : InnerRun α} {t : Trail α}

def holding (e : NewtonEquation α) (inner : InnerRun α) (s : Stage α (Run α (NewtonState α)))
    (t : Trail α) : Stage α (Run α (NewtonState α)) :=
  ⟨t, { s.state with own := { s.state.own with subsolver := .nested e inner } }⟩

theorem pose_of_system {system : NewtonSystem α}
    (given : problem.newtonSystem frame.point frame.residualPoint frame.transport s.trail =
      .ok system t) :
    let posed : NewtonEquation α :=
      { e with source := some (problem, frame.point), system := some system }
    pose problem frame e inner s =
      (do
        liftM (e.check.run "NewtonEquationSubproblem" system.matrix)
        return posed : Stepping α (NewtonEquation α)) (holding posed inner s t) := by
  intro posed
  have posing := NewtonEquation.poseAt_of_system (e := e) given
  cases checked : e.check.run "NewtonEquationSubproblem" system.matrix with
  | ok _ =>
    rw [checked] at posing
    exact bind_of_ok (t := holding posed inner s t) (Stage.within_eq_ok.mpr ⟨_, posing, rfl⟩)
  | error fault =>
    rw [checked] at posing
    exact bind_of_error (t := holding posed inner s t)
      (Stage.within_eq_error.mpr ⟨_, posing, rfl⟩)

theorem pose_of_error {fault : Fault α}
    (failed : problem.newtonSystem frame.point frame.residualPoint frame.transport s.trail =
      .error fault t) :
    pose problem frame e inner s =
      .error fault (holding { e with source := some (problem, frame.point) } inner s t) :=
  bind_of_error (Stage.within_eq_error.mpr ⟨_, NewtonEquation.poseAt_error failed, rfl⟩)

end Posing

section Nested

variable {frame : Frame α} {e : NewtonEquation α} {r : Run α (LinearState α)}
  (shaped : problem.manifold.Shaped frame.point.shape) (unchecked : e.check.wanted = false)
  (direct : LinearState.Direct r)

include shaped unchecked direct

theorem pose_agrees :
    Agree (Resolved s.state)
      (fun e system => e.check.wanted = false ∧
        ∃ m count, e.Posed problem frame.point system m count)
      (pose problem frame e (.linear r) s)
      (problem.newtonSystem frame.point frame.residualPoint frame.transport s.trail) := by
  cases given : problem.newtonSystem frame.point frame.residualPoint frame.transport s.trail with
  | ok system t =>
    obtain ⟨m, count, hsystem⟩ := problem.newtonSystem_shaped shaped rfl given
    rw [pose_of_system given, ConditionCheck.run, unchecked]
    refine .ok ⟨unchecked, m, count, ⟨rfl, rfl, shaped, hsystem⟩⟩ ⟨rfl, _, ?_, rfl⟩
    exact .nested unchecked direct
  | error fault t =>
    rw [pose_of_error given]
    refine .error ⟨rfl, _, ?_, rfl⟩
    exact .nested unchecked direct

theorem solveNested_agrees :
    Agree (Resolved s.state) Eq (solveNested problem frame e (.linear r) s)
      (problem.newtonVector .off frame.point frame.residualPoint frame.transport s.trail) := by
  rw [RootProblem.newtonVector_off]
  refine (pose_agrees shaped unchecked direct).bind ?_
  rintro e system t u ⟨unchecked, m, count, posed⟩ ⟨tally, _, _, state⟩
  refine Stage.agree_within (InnerRun.solveFrom_agrees posed direct rfl tally) ?_
  rintro t u ⟨tally, r, inner, direct⟩
  rw [inner, state]
  exact ⟨tally, _, .nested unchecked direct, rfl⟩

end Nested

section Functions

variable {f : DirectionFunction α} (frame : Frame α) (k : Int)

theorem allocatedDirection_eq (rule : f.allocating = Subsolver.direct) :
    allocatedDirection f problem frame k =
      problem.newtonVector .off frame.point frame.residualPoint frame.transport := by
  unfold allocatedDirection
  rw [rule]
  simp only [Subsolver.direct, bind_assoc, pure_bind, bind_pure]

theorem bufferedDirection_eq (rule : f.inPlace = Subsolver.directInto) {buffer : Tensor α}
    (shaped : problem.manifold.Shaped frame.point.shape) (hb : buffer.shape = frame.point.shape) :
    bufferedDirection f (.ok buffer) problem frame k =
      problem.newtonVector .off frame.point frame.residualPoint frame.transport := by
  unfold bufferedDirection
  rw [rule]
  simp only [Subsolver.directInto, bind_assoc, pure_bind]
  funext s
  cases solved : problem.newtonVector .off frame.point frame.residualPoint frame.transport s with
  | ok v t =>
    -- The buffer has the shape of the point, which is that of every direction.
    have hv := RootProblem.shape_of_newtonVector shaped rfl solved
    have copied : copyTo buffer v = .ok v := if_pos (hb.trans hv.symm)
    refine bind_eq_ok.mpr ⟨v, t, solved, ?_⟩
    rw [liftM_ok_bind, copied]
    rfl
  | error fault t => exact bind_of_error solved

end Functions

section Direct

variable {shape : Shape} (shaped : problem.manifold.Shaped shape) (k : Int)
  (direct : s.state.own.subsolver.Direct) (point : s.state.own.point.shape = shape)
  (direction : s.state.own.direction.shape = shape)

include shaped direct point direction

theorem computeDirection_solves :
    Agree (Resolved s.state) Eq (computeDirection problem k s)
      (problem.newtonVector .off s.state.own.point s.state.own.frame.residualPoint
        s.state.own.transport s.trail) := by
  subst point
  have equal {x y : EStateM.Result (Fault α) (Trail α) (Tensor α)} (same : x = y) :
      Agree Eq Eq x y := by
    rw [same]
    cases y with
    | ok v t => exact .ok rfl rfl
    | error e t => exact .error rfl
  unfold computeDirection
  rw [Running.getOwn_bind]
  cases given : s.state.own.subsolver with
  | allocating f =>
    rw [given] at direct
    cases direct with
    | allocating rule =>
      refine Stage.agree_onTrail (equal (congrFun (allocatedDirection_eq _ k rule) s.trail)) ?_
      rintro t _ rfl
      exact ⟨rfl, .allocating f, .allocating rule, by rw [← given]⟩
  | inPlace f =>
    rw [given] at direct
    cases direct with
    | inPlace rule =>
      have hb : (if s.state.own.isSame = true then s.state.own.direction
          else s.state.own.point.zerosLike).shape = s.state.own.point.shape := by
        split
        · exact direction
        · rfl
      have same := congrFun (bufferedDirection_eq s.state.own.frame k rule shaped hb) s.trail
      refine Stage.agree_onTrail (equal same) ?_
      rintro t _ rfl
      exact ⟨rfl, .inPlace f, .inPlace rule, by rw [← given]⟩
  | nested e inner =>
    rw [given] at direct
    cases direct with
    | nested unchecked direct => exact solveNested_agrees shaped unchecked direct

theorem computeDirection_agrees (ignores : problem.IgnoresEvents)
    (tally : s.trail.tally = u.tally) :
    Agree (Resolved s.state) Eq (computeDirection problem k s)
      (problem.newtonVector .off s.state.own.point s.state.own.frame.residualPoint
        s.state.own.transport u) := by
  refine ((computeDirection_solves shaped k direct point direction).trans
    (ignores.newtonVector _ _ _ .off _ _ tally)).mono ?_ fun _ _ same => same
  rintro t w ⟨v, resolved, same⟩
  exact ⟨resolved.tally.trans same, resolved.state⟩

end Direct

end Newton

end ManifoldOpt
