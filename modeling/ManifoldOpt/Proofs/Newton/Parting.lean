import ManifoldOpt.Proofs.Damping.Parting
import ManifoldOpt.Proofs.Newton.Evaluation
import ManifoldOpt.Proofs.Newton.SameEquations
import ManifoldOpt.Proofs.Solver.Parting

set_option autoImplicit false

namespace ManifoldOpt

open Attempt

variable {α : Type} [Scalar α]

section Trails

variable {I : Trail α → Prop} (emits : ∀ event, Keeps I (Trail.emit event))

include emits

omit [Scalar α] in
theorem Stage.emit_keeps_trail {S : Type} (event : Event α) :
    Keeps (fun s : Stage α S => I s.trail) (Stage.emit event) :=
  Stage.keeps_onTrail_of (fun _ before => before) (fun _ _ _ after => after) (emits event)

theorem LinearState.step_keeps_trail (e : NewtonEquation α) (k : Int) :
    Keeps (fun s => I s.trail) (step e k) := by
  refine Keeps.bind (fun _ before => before) fun own => ?_
  extract_lets solving
  have keeps (first : Option (Tensor α)) : Keeps (fun s => I s.trail) (solving first) := by
    simp only [solving]
    cases e.system with
    | none => exact (keeps_liftM _).bind fun _ => keeps_throw _
    | some system =>
      refine (keeps_liftM _).bind fun c => (keeps_liftM _).bind fun v => ?_
      refine Keeps.bind (fun _ before => before) fun _ => (keeps_liftM _).bind fun rest => ?_
      exact Stage.emit_keeps_trail emits _
  cases own.vector with
  | none => exact (keeps_pure _).bind keeps
  | some v => exact (keeps_liftM _).bind fun c => (keeps_pure _).bind keeps

omit emits in
theorem CountingState.step_keeps_trail (k : Int) :
    Keeps (fun s => I s.trail) (step k : Running α (CountingState α) Unit) := by
  have advances : Keeps (fun s => I s.trail) (advance : Running α (CountingState α) Unit) := by
    refine Keeps.bind (fun _ before => before) fun own => (keeps_liftM _).bind fun v => ?_
    refine Keeps.bind (fun _ before => before) fun _ => (keeps_liftM _).bind fun p => ?_
    exact Keeps.bind (fun _ before => before) fun _ => fun _ before => before
  refine Keeps.bind ?_ fun _ => Keeps.bind (fun _ before => before) fun _ => advances
  exact Keeps.bind (fun _ before => before) fun own => Keeps.ite (fun _ => keeps_throw _) fun _ =>
    keeps_pure _

theorem InnerRun.solveFrom_keeps_trail (e : NewtonEquation α) (p : Tensor α) :
    Keeps (fun s => I s.trail) (solveFrom e p) := by
  refine (keeps_liftM _).bind fun _ => Keeps.bind (fun _ before => before) fun inner => ?_
  cases inner with
  | linear r =>
    refine Stage.keeps_within_of (J := fun s => I s.trail) (fun _ before => before)
      (fun _ _ _ after => after) ?_
    refine Keeps.bind (fun _ before => before) fun _ => Keeps.bind ?_ fun _ => ?_
    · exact Solver.solve_keeps_trail emits nofun (keeps_pure _)
        (LinearState.step_keeps_trail emits e) _ _
    · refine Keeps.bind (fun _ before => before) fun own => ?_
      cases own.vector with
      | none => exact keeps_throw _
      | some v => exact keeps_pure _
  | counting r =>
    refine Stage.keeps_within_of (J := fun s => I s.trail) (fun _ before => before)
      (fun _ _ _ after => after) ?_
    refine Keeps.bind (fun _ before => before) fun own => (keeps_liftM _).bind fun moved => ?_
    refine Keeps.bind (fun _ before => before) fun _ => Keeps.bind ?_ fun _ => ?_
    · exact Solver.solve_keeps_trail emits nofun (fun _ before => before)
        CountingState.step_keeps_trail _ _
    · exact Keeps.bind (fun _ before => before) fun own => keeps_pure _

end Trails

def RootProblem.mapping (problem : RootProblem α) (f : Procedure α) : RootProblem α :=
  { problem with map := f }

structure RootProblem.Splits (parting : Parting α) (problem : RootProblem α) (f g : Procedure α) :
    Prop where
  map : ∀ p, parting.Splits Eq ((problem.mapping f).mapAt p) ((problem.mapping g).mapAt p)
  derivative : ∀ p, Keeps parting.going (problem.derivative p)

section Systems

variable {parting : Parting α} {problem : RootProblem α} {f g : Procedure α}
  (splits : problem.Splits parting f g)

include splits

theorem RootProblem.Splits.rightHandSide (base : Tensor α) (residual : Option (Tensor α))
    (transport : Literal α) :
    parting.Splits Eq ((problem.mapping f).rightHandSide base residual transport)
      ((problem.mapping g).rightHandSide base residual transport) := by
  refine (splits.map _).bind_silent fun image I => (keeps_liftM _).bind fun value => ?_
  cases residual with
  | none => exact (keeps_liftM _).bind fun _ => keeps_pure _
  | some q => exact (keeps_liftM _).bind fun _ => (keeps_liftM _).bind fun _ => keeps_pure _

theorem RootProblem.Splits.newtonSystem (base : Tensor α) (residual : Option (Tensor α))
    (transport : Literal α) :
    parting.Splits Eq ((problem.mapping f).newtonSystem base residual transport)
      ((problem.mapping g).newtonSystem base residual transport) := by
  refine CouplesUnless.lift_bind fun _ => CouplesUnless.lift_bind fun basis => ?_
  refine CouplesUnless.lift_bind fun fiberBasis => ?_
  refine Parting.bind_splits (splits.derivative base) fun operator => ?_
  refine CouplesUnless.lift_bind fun matrix => ?_
  refine (splits.rightHandSide base residual transport).bind_silent fun rhs I => ?_
  exact (keeps_liftM _).bind fun value => keeps_pure _

theorem RootProblem.Splits.newtonVector (check : ConditionCheck α) (base : Tensor α)
    (residual : Option (Tensor α)) (transport : Literal α) :
    parting.Splits Eq ((problem.mapping f).newtonVector check base residual transport)
      ((problem.mapping g).newtonVector check base residual transport) := by
  refine (splits.newtonSystem base residual transport).bind_silent fun system I => ?_
  exact (keeps_liftM _).bind fun _ => (keeps_liftM _).bind fun c => keeps_liftM _

end Systems

inductive Subsolver.Splits (parting : Parting α) (problem problem' : RootProblem α) :
    Subsolver α → Prop
  | allocating {f : DirectionFunction α} (rule : ∀ frame k,
      parting.Splits Eq (f.allocating problem frame k) (f.allocating problem' frame k)) :
    Splits parting problem problem' (.allocating f)
  | inPlace {f : DirectionFunction α} (rule : ∀ buffer frame k,
      parting.Splits Eq (f.inPlace (.ok buffer) problem frame k)
        (f.inPlace (.ok buffer) problem' frame k)) :
    Splits parting problem problem' (.inPlace f)
  | nested (e : NewtonEquation α) (inner : InnerRun α) :
    Splits parting problem problem' (.nested e inner)

structure NewtonState.UpToProblem (parting : Parting α) (problem problem' : RootProblem α)
    (x y : NewtonState α) : Prop where
  alike : x.UpToSource y
  splits : x.subsolver.Splits parting problem problem'

namespace NewtonState

variable {parting : Parting α} {problem problem' : RootProblem α} {x y : NewtonState α}

theorem UpToProblem.map (upToProblem : UpToProblem parting problem problem' x y)
    (f : NewtonState α → NewtonState α)
    (apart : ∀ x subsolver, f { x with subsolver } = { f x with subsolver }) :
    UpToProblem parting problem problem' (f x) (f y) := by
  obtain ⟨subsolver, rfl⟩ := upToProblem.alike.other
  have kept : (f x).subsolver = x.subsolver :=
    (congrArg NewtonState.subsolver (apart x x.subsolver) :)
  refine ⟨⟨?_, subsolver, apart x subsolver⟩, ?_⟩
  · rw [kept, apart]
    exact upToProblem.alike.subsolver
  · rw [kept]
    exact upToProblem.splits

theorem UpToProblem.nested (upToProblem : UpToProblem parting problem problem' x y)
    {e e' : NewtonEquation α} (equation : e.UpToSource e') (inner : InnerRun α) :
    UpToProblem parting problem problem' { x with subsolver := .nested e inner }
      { y with subsolver := .nested e' inner } := by
  obtain ⟨subsolver, rfl⟩ := upToProblem.alike.other
  exact ⟨⟨.nested equation inner, _, rfl⟩, .nested e inner⟩

end NewtonState

namespace Newton

open NewtonState (UpToProblem)

variable {parting : Parting α} {problem : RootProblem α} {f g : Procedure α} {k : Int}

abbrev Together (parting : Parting α) (problem : RootProblem α) (f g : Procedure α)
    (s t : Stage α (Run α (NewtonState α))) : Prop :=
  Stage.JoinedRuns (Trail.Both parting.going)
    (UpToProblem parting (problem.mapping f) (problem.mapping g)) s t

abbrev RunsSplit (parting : Parting α) (problem : RootProblem α) (f g : Procedure α)
    {β γ : Type} (V : β → γ → Prop) (m : Stepping α β) (m' : Stepping α γ) : Prop :=
  CouplesUnless parting.ApartAt parting.fault (Together parting problem f g) V m m'

section Directions

variable (splits : problem.Splits parting f g)

include splits

section Nested

variable (frame : Frame α) {e e' : NewtonEquation α} (equation : e.UpToSource e')
  (inner : InnerRun α)

include equation

theorem pose_splits :
    RunsSplit parting problem f g
      (fun e e' => e.UpToSource e' ∧ ∃ system,
        e.SameWork e' (problem.mapping f) (problem.mapping g) frame.point system)
      (pose (problem.mapping f) frame e inner) (pose (problem.mapping g) frame e' inner) := by
  intro s t before
  have holds {e e' : NewtonEquation α} (equation : e.UpToSource e') {u : Trail α}
      (going : parting.going u) :
      Together parting problem f g (holding e inner s u) (holding e' inner t u) :=
    ⟨⟨rfl, going⟩, { before.state with own := before.state.own.nested equation inner }⟩
  have result := splits.newtonSystem frame.point frame.residualPoint frame.transport _ _ before.trail
  generalize given : (problem.mapping f).newtonSystem frame.point frame.residualPoint
    frame.transport s.trail = x, given' : (problem.mapping g).newtonSystem frame.point
    frame.residualPoint frame.transport t.trail = y at result
  cases result with
  | agree agree =>
    refine .agree ?_
    cases agree with
    | error after =>
      obtain ⟨rfl, going⟩ := after
      rw [pose_of_error given, pose_of_error given']
      refine .error (holds ?_ going)
      exact ⟨equation.check, rfl, equation.system⟩
    | ok related after =>
      subst related
      obtain ⟨rfl, going⟩ := after
      rw [pose_of_system given, pose_of_system given', equation.check]
      refine Couples.lift_bind (fun _ _ => couples_pure ?_) _ _ (holds ?_ going)
      · exact ⟨⟨rfl, rfl, rfl⟩, _, rfl, rfl, rfl, rfl⟩
      · exact ⟨rfl, rfl, rfl⟩
  | @broken u _ apart =>
    rw [pose_of_error given]
    refine .broken ?_
    cases y with
    | error _ v =>
      rw [pose_of_error given']
      exact apart
    | ok system v =>
      rw [pose_of_system given']
      -- The check that is left to the second run leaves its trail alone.
      refine Keeps.left (I := fun t : Stage α (Run α (NewtonState α)) => parting.apart u t.trail) ?_
        apart
      exact (keeps_liftM _).bind fun _ => keeps_pure _

theorem solveNested_splits :
    RunsSplit parting problem f g Eq (solveNested (problem.mapping f) frame e inner)
      (solveNested (problem.mapping g) frame e' inner) := by
  refine (pose_splits splits frame equation inner).bind_couples ?_ ?_
  · intro e' s
    exact Stage.keeps_within_of (J := fun t => parting.apart s.trail t.trail) (fun _ apart => apart)
      (fun _ _ _ apart => apart) (InnerRun.solveFrom_keeps_trail (parting.apart_emit s.trail) e' _)
  · rintro e e' ⟨equation, system, work⟩
    -- The inner solver works on either equation in the same way, and on the same inner run.
    rw [InnerRun.solveFrom_eq_of_sameWork work]
    refine Stage.joined_within (P := Eq) (Stage.keeps_trail_iff.mp
      (InnerRun.solveFrom_keeps_trail parting.going_emit e _)) (fun _ _ _ => rfl) ?_
    rintro inner _ r r' rfl runs
    exact { runs with own := runs.own.nested equation inner }

end Nested

theorem computeDirection_splits :
    RunsSplit parting problem f g Eq (computeDirection (problem.mapping f) k)
      (computeDirection (problem.mapping g) k) := by
  refine Running.getOwn_joined.bind_unless ?_
  rintro own own' states
  obtain ⟨subsolver, rfl⟩ := states.alike.other
  have alike : own.subsolver.UpToSource subsolver := states.alike.subsolver
  have passes := states.splits
  -- The form of the sub-solver decides how it computes directions.
  clear states
  generalize own.subsolver = given at alike passes ⊢
  cases alike with
  | allocating h =>
    cases passes with
    | allocating rule =>
      refine Stage.onTrail_unless ((rule own.frame k).bind_silent fun v I => ?_)
      cases v with
      | none => exact keeps_throw _
      | some v => exact keeps_pure _
  | inPlace h =>
    cases passes with
    | inPlace rule =>
      refine Stage.onTrail_unless ((rule _ own.frame k).bind_silent fun v I => ?_)
      cases v with
      | none => exact keeps_throw _
      | some v => exact keeps_pure _
  | nested equation inner => exact solveNested_splits splits own.frame equation inner

end Directions

theorem notes_respect_together :
    NewtonState.notes.Respect (Together parting problem f g) where
  alpha a := Running.modifyOwn_joined fun _ _ same =>
    same.map (NewtonState.notes.setAlpha a) fun _ _ => rfl
  theta t := Running.modifyOwn_joined fun _ _ same =>
    same.map (NewtonState.notes.setTheta t) fun _ _ => rfl
  same b := Running.modifyOwn_joined fun _ _ same =>
    same.map (NewtonState.notes.setSame b) fun _ _ => rfl
  trial p := Running.modifyOwn_joined fun _ _ same =>
    same.map (NewtonState.notes.setTrial p) fun _ _ => rfl
  emit event := Stage.joined_onTrail (keeps_iff_couples.mp (parting.going_emit event))

/-- In stages `s` and `t` two searches go along the same direction. After the same trials, of which
both find the same, the direction at the next trial point breaks off for `f`. -/
structure SearchParts (parting : Parting α) (problem : RootProblem α) (f g : Procedure α) (k : Int)
    (s t u : Stage α (Run α (NewtonState α))) (d : Damping α) (norm : α)
    (q q' : SearchRound α) : Prop where
  damped : s.state.own.stepsize = .damped d
  measured : problem.manifold.normNumber s.state.own.point s.state.own.direction = .ok norm
  large : ¬ norm ≤ Tolerance.epsilon
  reached : Reached (problem.mapping f) k d norm s q
  reached' : Reached (problem.mapping g) k d norm t q'
  alike : q.Alike (Together parting problem f g) q'
  rejected : d.accepted < q.theta
  allowed : DampingSearch.isExhausted d q.trials q.factor = false
  broken : ∃ p, problem.manifold.retract s.state.own.point
      (s.state.own.direction.scale q.factor) s.state.own.retraction = .ok p ∧
    let trying (r : SearchRound α) :=
      (dampingSearch (problem.mapping f) k s.state.own).tryAt q.factor p r.stage
    computeDirection (problem.mapping f) k (trying q) = .error parting.fault u ∧
      parting.ApartAt u (left (computeDirection (problem.mapping g) k (trying q')))

inductive Parted (parting : Parting α) (problem : RootProblem α) (f g : Procedure α) (k : Int)
    (s t u : Stage α (Run α (NewtonState α))) : Prop
  | direction
    (broken : computeDirection (problem.mapping f) k (beginning s) = .error parting.fault u)
    (apart : parting.ApartAt u (left (computeDirection (problem.mapping g) k (beginning t))))
  | trial {v : Tensor α} {w w' : Stage α (Run α (NewtonState α))} {d : Damping α} {norm : α}
    {q q' : SearchRound α}
    (solved : computeDirection (problem.mapping f) k (beginning s) = .ok v w)
    (solved' : computeDirection (problem.mapping g) k (beginning t) = .ok v w')
    (searches : SearchParts parting problem f g k (withDirection v w) (withDirection v w') u d norm
      q q')

theorem idle_mapping (cost : Option (Tensor α → Attempt α (Trail α) α)) :
    (solver (problem.mapping f) cost).idle = (solver (problem.mapping g) cost).idle := by
  simp only [Solver.idle, solver, RootProblem.mapping]

section Steps

variable (splits : problem.Splits parting f g) {s t : Stage α (Run α (NewtonState α))}

include splits

theorem stepLength_parts (before : Together parting problem f g s t) :
    Agree (Together parting problem f g) Eq (stepLength (problem.mapping f) k s)
        (stepLength (problem.mapping g) k t) ∨
      ∃ u d norm q q', stepLength (problem.mapping f) k s = .error parting.fault u ∧
        SearchParts parting problem f g k s t u d norm q q' := by
  rw [stepLength, stepLength, Running.getOwn_bind, Running.getOwn_bind]
  obtain ⟨subsolver, own⟩ := before.state.own.alike.other
  rw [own]
  cases damped : s.state.own.stepsize with
  | rule r => exact .inl (couples_outcome _ s t before)
  | inert v => exact .inl (couples_throw _ s t before)
  | damped d =>
    have searched := @DampingSearch.run_parts _ _ _ _ _ _
      (dampingSearch (problem.mapping f) k s.state.own) _ notes_respect_together
      (computeDirection_splits splits) d _ _ before
    refine searched.imp_right ?_
    rintro ⟨norm, q, q', u, measured, large, parted, failed⟩
    refine ⟨u, d, norm, q, q', failed, damped, measured, large, parted.trials, ?_, parted.alike,
      parted.rejected, parted.allowed, parted.broken⟩
    have trials := parted.trials'
    rw [Reached, beforeTrials, own]
    exact trials

theorem goAlong_parts (before : Together parting problem f g s t) :
    Agree (Together parting problem f g) Eq (goAlong (problem.mapping f) k s)
        (goAlong (problem.mapping g) k t) ∨
      ∃ u d norm q q', goAlong (problem.mapping f) k s = .error parting.fault u ∧
        SearchParts parting problem f g k s t u d norm q q' := by
  rcases stepLength_parts splits before with agree | ⟨u, d, norm, q, q', failed, parts⟩
  · refine .inl (agree.bind ?_)
    rintro length _ s t rfl before
    refine ((Running.setStepsize_joined _).bind_eq fun _ => Running.getOwn_joined.bind ?_) s t before
    rintro own own' upToProblem
    obtain ⟨subsolver, rfl⟩ := upToProblem.alike.other
    refine (Stage.joined_onTrail (keeps_iff_couples.mp (parting.going_emit _))).bind_eq fun _ => ?_
    refine Couples.lift_bind fun p _ => Running.modifyOwn_joined fun _ _ same => ?_
    exact same.map (fun s => { s with point := p, trial := p, isSame := true }) fun _ _ => rfl
  · exact .inr ⟨u, d, norm, q, q', bind_of_error failed, parts⟩

theorem step_parts (before : Together parting problem f g s t) :
    Agree (Together parting problem f g) Eq (step (problem.mapping f) k s)
        (step (problem.mapping g) k t) ∨
      ∃ u, step (problem.mapping f) k s = .error parting.fault u ∧
        Parted parting problem f g k s t u := by
  have begun : Together parting problem f g (beginning s) (beginning t) :=
    ⟨before.trail, { before.state with
      own := before.state.own.map (fun s => { s with isSame := true }) fun _ _ => rfl }⟩
  have result := computeDirection_splits (k := k) splits _ _ begun
  change Agree _ Eq (goFrom (problem.mapping f) k (beginning s))
      (goFrom (problem.mapping g) k (beginning t)) ∨
    ∃ u, goFrom (problem.mapping f) k (beginning s) = _ ∧ _
  unfold goFrom
  generalize solved : computeDirection (problem.mapping f) k (beginning s) = x,
    solved' : computeDirection (problem.mapping g) k (beginning t) = y at result
  cases result with
  | broken apart =>
    exact .inr ⟨_, bind_of_error solved, .direction solved (by rw [solved']; exact apart)⟩
  | agree agree =>
    cases agree with
    | error after =>
      rw [bind_of_error solved, bind_of_error solved']
      exact .inl (.error after)
    | @ok v _ w w' related after =>
      subst related
      have directed : Together parting problem f g (withDirection v w) (withDirection v w') :=
        ⟨after.trail, { after.state with
          own := after.state.own.map (fun s => { s with direction := v }) fun _ _ => rfl }⟩
      rw [bind_of_ok solved, bind_of_ok solved', Running.modifyOwn_bind, Running.modifyOwn_bind]
      refine (goAlong_parts splits directed).imp_right ?_
      rintro ⟨u, d, norm, q, q', failed, parts⟩
      exact ⟨u, failed, .trial solved solved' parts⟩

theorem solver_parts (cost : Option (Tensor α → Attempt α (Trail α) α))
    (costs : ∀ c ∈ cost, ∀ p, Keeps parting.going (c p)) :
    Solver.Parts (Trail.Both parting.going)
      (UpToProblem parting (problem.mapping f) (problem.mapping g)) parting.fault
      (Parted parting problem f g) (solver (problem.mapping f) cost)
      (solver (problem.mapping g) cost) where
  idle := by
    rw [← idle_mapping (f := f) (g := g)]
    exact {
      name := rfl
      level := rfl
      view := by
        intro x y upToProblem
        obtain ⟨subsolver, own⟩ := upToProblem.alike.other
        rw [own]
        rfl
      sameAnswers := fun _ => View.sameAnswers_both parting.going_emit costs
      setUp := by
        refine (Running.modifyOwn_joined fun _ _ same => same.map (fun s => { s with
          trial := s.point, isSame := true, alpha := 1, theta := Default.initialContraction })
          fun _ _ => rfl).bind_eq fun _ => ?_
        exact Running.setStepsize_joined none
      step := fun _ => couples_pure rfl }
  step _ _ _ before := step_parts splits before

end Steps

end Newton

end ManifoldOpt
