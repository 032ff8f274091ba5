import ManifoldOpt.Proofs.Manifold.Bundle
import ManifoldOpt.Proofs.Newton.Renewal
import ManifoldOpt.Proofs.Newton.Solution

/-!
Newton's method for problems that pose the same equations. At every iterate and at every trial point
the directions are the same, so that the runs are, but for the problem that the equation of an inner
solver remembers. Nothing has to be known of the functions of the problems: whatever they see of a
run, they see of both.
-/

set_option autoImplicit false

namespace ManifoldOpt

variable {α : Type} [Scalar α] {shape : Shape}

open Attempt

structure Frame.Inside (shape : Shape) (frame : Frame α) : Prop where
  point : frame.point.shape = shape
  trial : ∀ q ∈ frame.trial, q.shape = shape
  transport : frame.transport.NamesTransport

/-- Problems over one manifold that pose the same equation at arrays of a shape. -/
structure RootProblem.SameEquations (shape : Shape) (problem problem' : RootProblem α) : Prop where
  manifold : problem'.manifold = problem.manifold
  shaped : problem.manifold.Shaped shape
  system : ∀ frame, Frame.Inside shape frame →
    problem'.newtonSystem frame.point frame.residualPoint frame.transport =
      problem.newtonSystem frame.point frame.residualPoint frame.transport

structure NewtonEquation.UpToSource (e e' : NewtonEquation α) : Prop where
  check : e'.check = e.check
  base : e'.source.map Prod.snd = e.source.map Prod.snd
  system : e'.system = e.system

inductive Subsolver.UpToSource : Subsolver α → Subsolver α → Prop
  | allocating (f : DirectionFunction α) : UpToSource (.allocating f) (.allocating f)
  | inPlace (f : DirectionFunction α) : UpToSource (.inPlace f) (.inPlace f)
  | nested {e e' : NewtonEquation α} (equation : e.UpToSource e') (inner : InnerRun α) :
    UpToSource (.nested e inner) (.nested e' inner)

theorem Subsolver.UpToSource.refl (subsolver : Subsolver α) : subsolver.UpToSource subsolver := by
  cases subsolver with
  | allocating f => exact .allocating f
  | inPlace f => exact .inPlace f
  | nested e inner => exact .nested ⟨rfl, rfl, rfl⟩ inner

structure NewtonState.UpToSource (x y : NewtonState α) : Prop where
  subsolver : x.subsolver.UpToSource y.subsolver
  other : ∃ subsolver, y = { x with subsolver }

def Manifold.KeepsShape (M : Manifold α) (shape : Shape) (v : Tensor α) : Prop :=
  ∀ m p q c, p.shape = shape → M.retractBy m p (v.scale c) = .ok q → q.shape = shape

theorem Manifold.Shaped.keepsShape {M : Manifold α} (shaped : M.Shaped shape) {v : Tensor α}
    (hv : v.shape = shape) : M.KeepsShape shape v := by
  intro m p q c hp moved
  have scaled : (v.scale c).shape = shape := hv
  exact shaped.retract hp scaled moved

/-- A rule for directions that does not tell two problems apart and does not lead out of a shape. -/
structure DirectionRule.SameFor (shape : Shape) (problem problem' : RootProblem α)
    (rule : DirectionRule α) : Prop where
  same : ∀ {frame} k, Frame.Inside shape frame → rule problem' frame k = rule problem frame k
  keepsShape : ∀ {frame} k s v t, Frame.Inside shape frame → rule problem frame k s = .ok (some v) t →
    problem.manifold.KeepsShape shape v

theorem DirectionRule.SameFor.given {problem problem' : RootProblem α} {rule : DirectionRule α}
    (sameFor : SameFor shape problem problem' rule) {frame : Frame α} (inside : frame.Inside shape)
    (k : Int) {rest : Option (Tensor α) → Attempt α (Trail α) (Tensor α)}
    (required : ∀ w s v t, rest w s = .ok v t → w = some v) :
    Couples Eq (fun v w => v = w ∧ problem.manifold.KeepsShape shape v)
      (rule problem frame k >>= rest) (rule problem' frame k >>= rest) := by
  rw [sameFor.same k inside]
  refine (couples_same _).and_left fun s v t found => ?_
  obtain ⟨w, u, called, done⟩ := bind_eq_ok.mp found
  obtain rfl := required w u v t done
  exact sameFor.keepsShape k _ _ _ inside called

inductive Subsolver.SameFor (shape : Shape) (problem problem' : RootProblem α) :
    Subsolver α → Prop
  | allocating {f : DirectionFunction α}
    (rule : DirectionRule.SameFor shape problem problem' f.allocating) :
    SameFor shape problem problem' (.allocating f)
  | inPlace {f : DirectionFunction α}
    (rule : ∀ buffer, DirectionRule.SameFor shape problem problem' (f.inPlace (.ok buffer))) :
    SameFor shape problem problem' (.inPlace f)
  | nested (e : NewtonEquation α) (inner : InnerRun α) :
    SameFor shape problem problem' (.nested e inner)

namespace NewtonState

structure UpToSourceOn (shape : Shape) (problem problem' : RootProblem α) (D : Tensor α → Prop)
    (x y : NewtonState α) : Prop where
  alike : x.UpToSource y
  sameFor : x.subsolver.SameFor shape problem problem'
  point : x.point.shape = shape
  trial : x.trial.shape = shape
  transport : x.transport.NamesTransport
  direction : D x.direction

variable {problem problem' : RootProblem α} {D D' : Tensor α → Prop} {x y : NewtonState α}

theorem UpToSourceOn.frame (states : UpToSourceOn shape problem problem' D x y) :
    Frame.Inside shape x.frame where
  point := states.point
  trial := by
    rintro q ⟨rfl⟩
    exact states.trial
  transport := states.transport

theorem UpToSourceOn.map (states : UpToSourceOn shape problem problem' D x y)
    (f : NewtonState α → NewtonState α)
    (apart : ∀ x subsolver, f { x with subsolver } = { f x with subsolver })
    (point : (f x).point.shape = shape) (trial : (f x).trial.shape = shape)
    (transport : (f x).transport = x.transport) (direction : D' (f x).direction) :
    UpToSourceOn shape problem problem' D' (f x) (f y) := by
  obtain ⟨subsolver, rfl⟩ := states.alike.other
  have kept : (f x).subsolver = x.subsolver :=
    (congrArg NewtonState.subsolver (apart x x.subsolver) :)
  refine ⟨⟨?_, subsolver, apart x subsolver⟩, ?_, point, trial, ?_, direction⟩
  · rw [kept, apart]
    exact states.alike.subsolver
  · rw [kept]
    exact states.sameFor
  · rw [transport]
    exact states.transport

theorem UpToSourceOn.nested (states : UpToSourceOn shape problem problem' D x y)
    {e e' : NewtonEquation α} (equation : e.UpToSource e') (inner : InnerRun α) :
    UpToSourceOn shape problem problem' D { x with subsolver := .nested e inner }
      { y with subsolver := .nested e' inner } := by
  obtain ⟨subsolver, rfl⟩ := states.alike.other
  exact { states with alike := ⟨.nested equation inner, _, rfl⟩, sameFor := .nested e inner }

end NewtonState

namespace Newton

open NewtonState (UpToSourceOn)

variable {problem problem' : RootProblem α} {D : Tensor α → Prop} {k : Int}

theorem search_respected {own : NewtonState α} (point : own.point.shape = shape)
    (keepsShape : problem.manifold.KeepsShape shape own.direction) :
    DampingSearch.Respected
      { notes := NewtonState.notes, manifold := problem.manifold, point := own.point
        direction := own.direction, retraction := own.retraction
        simplified := computeDirection problem k, iteration := k }
      (Stage.SameTrailRuns (UpToSourceOn shape problem problem' D)) where
  alpha a := Running.modifyOwn_joined fun _ _ same =>
    same.map (NewtonState.notes.setAlpha a) (fun _ _ => rfl) same.point same.trial rfl same.direction
  theta t := Running.modifyOwn_joined fun _ _ same =>
    same.map (NewtonState.notes.setTheta t) (fun _ _ => rfl) same.point same.trial rfl same.direction
  same b := Running.modifyOwn_joined fun _ _ same =>
    same.map (NewtonState.notes.setSame b) (fun _ _ => rfl) same.point same.trial rfl same.direction
  trial p reached := by
    obtain ⟨factor, moved⟩ := reached
    obtain ⟨m, _, walked⟩ := Outcome.bind_eq_ok.mp moved
    have hp : p.shape = shape := keepsShape m _ _ factor point walked
    exact Running.modifyOwn_joined fun _ _ same =>
      same.map (NewtonState.notes.setTrial p) (fun _ _ => rfl) same.point hp rfl same.direction
  emit _ := Stage.joined_onTrail (couples_same _)

section Steps

variable (equations : RootProblem.SameEquations shape problem problem')

include equations

section Nested

variable {frame : Frame α} (inside : frame.Inside shape) {e e' : NewtonEquation α}
  (equation : e.UpToSource e') (inner : InnerRun α)

include inside equation

theorem pose_sameEquations :
    Couples (Stage.SameTrailRuns (UpToSourceOn shape problem problem' D))
      (fun e e' => e.UpToSource e' ∧ ∃ system m count,
        e.Posed problem frame.point system m count ∧
        e.SameWork e' problem problem' frame.point system)
      (pose problem frame e inner) (pose problem' frame e' inner) := by
  intro s t before
  have holds {e e' : NewtonEquation α} (equation : e.UpToSource e') (u : Trail α) :
      Stage.SameTrailRuns (UpToSourceOn shape problem problem' D) (holding e inner s u)
        (holding e' inner t u) :=
    ⟨rfl, { before.state with own := before.state.own.nested equation inner }⟩
  have same := equations.system frame inside
  cases given : problem.newtonSystem frame.point frame.residualPoint frame.transport s.trail with
  | error fault u =>
    -- Only the source is noted by then; the system is still the one from before.
    have given' : problem'.newtonSystem frame.point frame.residualPoint frame.transport t.trail =
        .error fault u := by rw [same, ← before.trail, given]
    rw [pose_of_error given, pose_of_error given']
    refine .error (holds ?_ u)
    exact ⟨equation.check, rfl, equation.system⟩
  | ok system u =>
    have given' : problem'.newtonSystem frame.point frame.residualPoint frame.transport t.trail =
        .ok system u := by rw [same, ← before.trail, given]
    have shaped : problem.manifold.Shaped frame.point.shape := inside.point ▸ equations.shaped
    obtain ⟨m, count, hsystem⟩ := problem.newtonSystem_shaped shaped rfl given
    rw [pose_of_system given, pose_of_system given', equation.check]
    refine Couples.lift_bind (fun _ _ => couples_pure ?_) _ _ (holds ?_ u)
    · exact ⟨⟨rfl, rfl, rfl⟩, system, m, count, ⟨rfl, rfl, shaped, hsystem⟩,
        ⟨rfl, rfl, rfl, equations.manifold⟩⟩
    · exact ⟨rfl, rfl, rfl⟩

theorem solveNested_sameEquations :
    Couples (Stage.SameTrailRuns (UpToSourceOn shape problem problem' D))
      (fun v w => v = w ∧ problem.manifold.KeepsShape shape v) (solveNested problem frame e inner)
      (solveNested problem' frame e' inner) := by
  refine (pose_sameEquations equations inside equation inner).bind ?_
  rintro e e' ⟨equation, system, m, count, posed, work⟩
  -- The inner solver works on either equation in the same way, and on the same inner run.
  rw [InnerRun.solveFrom_eq_of_sameWork work]
  have solved : Couples (Stage.Joined Eq Eq) (fun v w => v = w ∧ problem.manifold.KeepsShape shape v)
      (InnerRun.solveFrom e frame.point.zerosLike) (InnerRun.solveFrom e frame.point.zerosLike) := by
    rw [Stage.joined_eq]
    refine (couples_same _).and_left fun s v t found => ?_
    have start : frame.point.zerosLike.shape = frame.point.shape := rfl
    have hv : v.shape = frame.point.shape := InnerRun.shape_of_solveFrom posed start found
    exact equations.shaped.keepsShape (hv.trans inside.point)
  refine Stage.joined_within solved (fun _ _ _ => rfl) ?_
  rintro inner _ r r' rfl runs
  exact { runs with own := runs.own.nested equation inner }

end Nested

theorem computeDirection_sameEquations :
    Couples (Stage.SameTrailRuns (UpToSourceOn shape problem problem' D))
      (fun v w => v = w ∧ problem.manifold.KeepsShape shape v) (computeDirection problem k)
      (computeDirection problem' k) := by
  refine Running.getOwn_joined.bind ?_
  rintro own own' states
  have inside := states.frame
  have sameFor := states.sameFor
  obtain ⟨subsolver, rfl⟩ := states.alike.other
  have alike : own.subsolver.UpToSource subsolver := states.alike.subsolver
  -- The form of the sub-solver decides what it is to be neutral.
  clear states
  generalize own.subsolver = given at alike sameFor ⊢
  cases alike with
  | allocating f =>
    cases sameFor with
    | allocating rule =>
      refine Stage.joined_onTrail (rule.given inside k fun w s v t done => ?_)
      cases w with
      | none => cases done
      | some w =>
        cases done
        rfl
  | inPlace f =>
    cases sameFor with
    | inPlace rule =>
      refine Stage.joined_onTrail ((rule _).given inside k fun w s v t done => ?_)
      cases w with
      | none => cases done
      | some w =>
        cases done
        rfl
  | nested equation inner => exact solveNested_sameEquations equations inside equation inner

theorem stepLength_sameEquations :
    Couples (Stage.SameTrailRuns
        (UpToSourceOn shape problem problem' (problem.manifold.KeepsShape shape))) Eq
      (stepLength problem k) (stepLength problem' k) := by
  refine Running.getOwn_joined.bind ?_
  rintro own own' states
  have point := states.point
  have keepsShape := states.direction
  obtain ⟨subsolver, rfl⟩ := states.alike.other
  rw [equations.manifold]
  cases own.stepsize with
  | rule r => exact couples_outcome _
  | damped d =>
    refine (search_respected point keepsShape).run ?_ d
    exact (computeDirection_sameEquations equations).mono fun _ _ both => both.1
  | inert v => exact couples_throw _

theorem goAlong_sameEquations :
    Couples (Stage.SameTrailRuns
        (UpToSourceOn shape problem problem' (problem.manifold.KeepsShape shape))) Eq
      (goAlong problem k) (goAlong problem' k) := by
  refine (stepLength_sameEquations equations).bind_eq fun length => ?_
  refine (Running.setStepsize_joined _).bind_eq fun _ => Running.getOwn_joined.bind ?_
  rintro own own' states
  have point := states.point
  have keepsShape := states.direction
  obtain ⟨subsolver, rfl⟩ := states.alike.other
  rw [equations.manifold]
  refine (Stage.joined_onTrail (couples_same _)).bind_eq fun _ => Couples.lift_bind fun p moved => ?_
  obtain ⟨m, _, walked⟩ := Outcome.bind_eq_ok.mp moved
  -- The next point has the shape again, so that the next equation is posed inside, too.
  have hp : p.shape = shape := keepsShape m _ _ length point walked
  exact Running.modifyOwn_joined fun _ _ same => same.map
    (fun s => { s with point := p, trial := p, isSame := true }) (fun _ _ => rfl) hp hp rfl
    same.direction

theorem step_sameEquations :
    Couples (Stage.SameTrailRuns (UpToSourceOn shape problem problem' fun _ => True)) Eq
      (step problem k) (step problem' k) := by
  refine (Running.modifyOwn_joined fun _ _ same => same.map (fun s => { s with isSame := true })
    (fun _ _ => rfl) same.point same.trial rfl same.direction).bind_eq fun _ => ?_
  refine (computeDirection_sameEquations equations).bind ?_
  rintro v _ ⟨rfl, keepsShape⟩ s t before
  -- From here on there is a direction that stays inside, whatever buffer the step has begun with.
  have directed : Stage.SameTrailRuns
      (UpToSourceOn shape problem problem' (problem.manifold.KeepsShape shape))
      { s with state := { s.state with own := { s.state.own with direction := v } } }
      { t with state := { t.state with own := { t.state.own with direction := v } } } :=
    ⟨before.trail, { before.state with
      own := before.state.own.map (fun s => { s with direction := v }) (fun _ _ => rfl)
        before.state.own.point before.state.own.trial rfl keepsShape }⟩
  refine (goAlong_sameEquations equations _ _ directed).mono (fun u w after => ?_) fun _ _ => id
  exact ⟨after.trail, { after.state with own := { after.state.own with direction := trivial } }⟩

theorem solver_sameEquations (cost : Option (Tensor α → Attempt α (Trail α) α)) :
    Solver.Joined Eq (UpToSourceOn shape problem problem' fun _ => True) (solver problem cost)
      (solver problem' cost) where
  name := rfl
  level := rfl
  view x y states := by
    obtain ⟨subsolver, rfl⟩ := states.alike.other
    unfold solver
    rw [equations.manifold]
  sameAnswers _ := View.sameAnswers _
  setUp := by
    refine (Running.modifyOwn_joined fun _ _ same => same.map (fun s =>
      { s with trial := s.point, isSame := true, alpha := 1, theta := Default.initialContraction })
      (fun _ _ => rfl) same.point same.point rfl same.direction).bind_eq fun _ => ?_
    exact Running.setStepsize_joined none
  step _ := step_sameEquations equations

end Steps

end Newton

end ManifoldOpt
