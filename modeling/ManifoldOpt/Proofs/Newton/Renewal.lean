import ManifoldOpt.Proofs.Newton.AfterUse
import ManifoldOpt.Proofs.Solver.Renewal

set_option autoImplicit false

namespace ManifoldOpt

open Attempt

variable {α : Type} [Scalar α]

namespace LinearState

def Ready (x y : LinearState α) : Prop := x = y ∧ ∃ v, x.vector = some v

omit [Scalar α] in
theorem AfterUse.of_alike {r r' : Run α (LinearState α)} (runs : Run.Alike Ready r r') :
    AfterUse r r' where
  stop := runs.stop ▸ .refl r.stop
  method := by rw [runs.own.1]
  tolerance := by rw [runs.own.1]
  fields := by rw [runs.recorder]
  lastStepsize := runs.lastStepsize.symm

variable (e : NewtonEquation α)

theorem step_couples (k : Int) :
    Couples (Stage.AlikeRuns Ready) Eq (step e k) (step e k) := by
  refine Running.getOwn_couples.bind ?_
  rintro own _ ⟨rfl, v, current⟩
  extract_lets solving
  have couples (first : Option (Tensor α)) :
      Couples (Stage.AlikeRuns Ready) Eq (solving first) (solving first) := by
    simp only [solving]
    cases e.system with
    | none => exact Couples.lift_bind fun _ _ => couples_throw _
    | some system =>
      refine Couples.lift_bind fun c _ => Couples.lift_bind fun v _ => ?_
      refine (Running.modifyOwn_couples ?_).bind_eq fun _ =>
        Couples.lift_bind fun rest _ => Stage.couples_emit _ _
      rintro x _ ⟨rfl, -⟩
      exact ⟨rfl, v, rfl⟩
  rw [current]
  exact Couples.lift_bind fun c _ => (couples_pure rfl).bind_eq couples

theorem solver_alike : (solver e).Alike Ready (solver e) where
  name := rfl
  level := rfl
  view := by
    rintro x _ ⟨rfl, -⟩
    rfl
  ignores _ cost given := by cases given
  setUp := couples_pure rfl
  step := step_couples e

theorem solver_renewable {M : Manifold α} (known : e.manifold = .ok M) :
    (solver e).Renewable Ready Ready := by
  refine ⟨solver_alike e, fun _ _ same => same, ?_, fun s t before => ?_⟩
  rotate_left
  · exact .inl (step_couples e 1 s t before)
  rintro x _ ⟨rfl, v, current⟩
  have shows : ((solver e).view x).Shows M v := ⟨known, congrArg Except.ok current⟩
  exact ⟨M, v, shows, shows⟩

def rerun (p : Tensor α) : Running α (LinearState α) (Tensor α) := do
  Running.modifyOwn (replaceVector p)
  (solver e).solve Default.solveAllowance none
  match (← Running.getOwn).vector with
  | some v => return v
  | none => throw .missingArray

variable {e} {r r' : Run α (LinearState α)} {s t : Trail α}

theorem rerun_renews {M : Manifold α} (known : e.manifold = .ok M) (used : AfterUse r r')
    (p : Tensor α) (tally : s.tally = t.tally) :
    Agree (Stage.AlikeRuns Ready) Eq (rerun e p ⟨s, r⟩) (rerun e p ⟨t, r'⟩) := by
  obtain ⟨allowance, enough⟩ : ∃ n, Default.solveAllowance = n + 1 := ⟨10 ^ 12 - 1, rfl⟩
  let u : Stage α (Run α (LinearState α)) := ⟨s, { r with own := r.own.replaceVector p }⟩
  let v : Stage α (Run α (LinearState α)) := ⟨t, { r' with own := r'.own.replaceVector p }⟩
  -- The vector is replaced on both sides; the rest of the state is what it was made with.
  have own : u.state.own = v.state.own := by
    change LinearState.mk r.own.method r.own.tolerance (some p) =
      LinearState.mk r'.own.method r'.own.tolerance (some p)
    rw [used.method, used.tolerance]
  have restarted : Stage.Alike (Run.Restarted Ready) u v :=
    ⟨tally, used.stop, ⟨own, p, rfl⟩, used.fields.symm, used.lastStepsize.symm⟩
  have set : (solver e).setUp ⟨u.trail, u.state.attach none⟩ = .ok () u := rfl
  have set' : (solver e).setUp ⟨v.trail, v.state.attach none⟩ = .ok () v := rfl
  have solved := (solver_renewable e known).solve set set' restarted allowance
  unfold rerun
  rw [enough]
  change Agree _ Eq (((solver e).solve (allowance + 1) none >>= _) u)
    (((solver e).solve (allowance + 1) none >>= _) v)
  refine solved.bind fun _ _ s t _ after => ?_
  refine Running.getOwn_couples.bind (W := Eq) ?_ s t after
  rintro own _ ⟨rfl, w, current⟩
  rw [current]
  exact couples_pure rfl

end LinearState

theorem InnerRun.solveFrom_renews (e : NewtonEquation α) {r r' : Run α (LinearState α)}
    (used : LinearState.AfterUse r r') (p : Tensor α) {s t : Trail α} (tally : s.tally = t.tally) :
    Agree (Stage.Alike fun inner inner' => ∃ r r', inner = linear r ∧ inner' = linear r' ∧
        LinearState.AfterUse r r') Eq
      (solveFrom e p ⟨s, .linear r⟩) (solveFrom e p ⟨t, .linear r'⟩) := by
  unfold solveFrom
  cases known : e.manifold with
  | error fault => exact .error ⟨tally, r, r', rfl, rfl, used⟩
  | ok M =>
    change Agree _ Eq
      (Stage.within (fun _ => r) (fun r _ => linear r) (LinearState.rerun e p) ⟨s, linear r⟩)
      (Stage.within (fun _ => r') (fun r _ => linear r) (LinearState.rerun e p) ⟨t, linear r'⟩)
    refine Agree.focus (LinearState.rerun_renews known used p tally) fun u v after => ?_
    exact ⟨after.tally, u.state, v.state, rfl, rfl, .of_alike after.state⟩

inductive Subsolver.IgnoresBuffer (problem : RootProblem α) : Subsolver α → Prop
  | allocating {f : DirectionFunction α}
    (ignores : ∀ frame k, Attempt.IgnoresEvents (f.allocating problem frame k)) :
    IgnoresBuffer problem (.allocating f)
  | inPlace {f : DirectionFunction α}
    (buffers : ∀ frame k buffer buffer', Couples Trail.SameTally Eq
      (f.inPlace (.ok buffer) problem frame k) (f.inPlace (.ok buffer') problem frame k)) :
    IgnoresBuffer problem (.inPlace f)
  | nested {e : NewtonEquation α} {r : Run α (LinearState α)} (ignores : problem.IgnoresEvents) :
    IgnoresBuffer problem (.nested e (.linear r))

namespace NewtonState

structure UpTo (problem : RootProblem α) (D : Tensor α → Tensor α → Prop) (x y : NewtonState α) :
    Prop where
  direction : D x.direction y.direction
  used : x.subsolver.AfterUse y.subsolver
  ignoresBuffer : Subsolver.IgnoresBuffer problem x.subsolver
  other : ∃ direction subsolver, y = { x with direction, subsolver }

variable {problem : RootProblem α} {D : Tensor α → Tensor α → Prop} {x y : NewtonState α}

theorem UpTo.map (same : UpTo problem D x y) (f : NewtonState α → NewtonState α)
    (apart : ∀ x direction subsolver,
      f { x with direction, subsolver } = { f x with direction, subsolver }) :
    UpTo problem D (f x) (f y) := by
  obtain ⟨direction, subsolver, rfl⟩ := same.other
  -- At its own direction and sub-solver, `x` shows that `f` leaves both as they are.
  have unchanged : f x = { f x with direction := x.direction, subsolver := x.subsolver } :=
    apart x x.direction x.subsolver
  have kept : (f x).direction = x.direction := (congrArg NewtonState.direction unchanged :)
  have kept' : (f x).subsolver = x.subsolver := (congrArg NewtonState.subsolver unchanged :)
  refine ⟨?_, ?_, ?_, direction, subsolver, apart x direction subsolver⟩
  · rw [kept, apart]
    exact same.direction
  · rw [kept', apart]
    exact same.used
  · rw [kept']
    exact same.ignoresBuffer

theorem UpTo.redirect (same : UpTo problem D x y) (v : Tensor α) :
    UpTo problem Eq { x with direction := v } { y with direction := v } := by
  obtain ⟨direction, subsolver, rfl⟩ := same.other
  exact ⟨rfl, same.used, same.ignoresBuffer, v, subsolver, rfl⟩

theorem UpTo.nested (same : UpTo problem D x y) (ignores : problem.IgnoresEvents)
    {e e' : NewtonEquation α} {r r' : Run α (LinearState α)} (check : e'.check = e.check)
    (used : LinearState.AfterUse r r') :
    UpTo problem D { x with subsolver := .nested e (.linear r) }
      { y with subsolver := .nested e' (.linear r') } := by
  obtain ⟨direction, subsolver, rfl⟩ := same.other
  exact ⟨same.direction, .nested check (.linear used), .nested ignores, direction, _, rfl⟩

end NewtonState

namespace Newton

open NewtonState (UpTo)

variable {problem : RootProblem α} {D : Tensor α → Tensor α → Prop} {k : Int}

section Nested

variable (ignores : problem.IgnoresEvents) (frame : Frame α) {e e' : NewtonEquation α}
  (check : e'.check = e.check) {r r' : Run α (LinearState α)} (used : LinearState.AfterUse r r')

include ignores check used

theorem pose_renews :
    Couples (Stage.AlikeRuns (UpTo problem D)) Eq (pose problem frame e (.linear r))
      (pose problem frame e' (.linear r')) := by
  intro s t before
  have holds {e e' : NewtonEquation α} (check : e'.check = e.check) {u v : Trail α}
      (tally : u.tally = v.tally) :
      Stage.AlikeRuns (UpTo problem D) (holding e (.linear r) s u) (holding e' (.linear r') t v) :=
    ⟨tally, { before.state with own := before.state.own.nested ignores check used }⟩
  have agree := ignores.newtonSystem frame.point frame.residualPoint frame.transport _ _ before.tally
  cases given : problem.newtonSystem frame.point frame.residualPoint frame.transport t.trail with
  | error fault v =>
    rw [given] at agree
    obtain ⟨u, failed, tally⟩ := agree.error_right
    rw [pose_of_error failed, pose_of_error given]
    refine .error (holds ?_ tally)
    exact check
  | ok system v =>
    rw [given] at agree
    obtain ⟨u, given', tally⟩ := agree.ok_right
    rw [pose_of_system given', pose_of_system given, check]
    refine Couples.lift_bind (fun _ _ => couples_pure ?_) _ _ (holds ?_ tally)
    · rfl
    · rfl

theorem solveNested_renews :
    Couples (Stage.AlikeRuns (UpTo problem D)) Eq (solveNested problem frame e (.linear r))
      (solveNested problem frame e' (.linear r')) := by
  refine (pose_renews ignores frame check used).bind_eq fun e s t before => ?_
  refine Agree.focus (InnerRun.solveFrom_renews e used _ before.tally) ?_
  rintro u v ⟨tally, r, r', left, right, used⟩
  refine ⟨tally, { before.state with own := ?_ }⟩
  rw [left, right]
  exact before.state.own.nested ignores rfl used

end Nested

theorem computeDirection_renews :
    Couples (Stage.AlikeRuns (UpTo problem D)) Eq (computeDirection problem k)
      (computeDirection problem k) := by
  refine Running.getOwn_couples.bind ?_
  rintro own own' same
  obtain ⟨direction, subsolver, rfl⟩ := same.other
  have used : own.subsolver.AfterUse subsolver := same.used
  have ignoresBuffer := same.ignoresBuffer
  -- Aging and independence are about one sub-solver, whose form decides on both.
  clear same
  generalize own.subsolver = given at used ignoresBuffer ⊢
  cases used with
  | allocating f =>
    cases ignoresBuffer with
    | allocating ignores =>
      refine Stage.couples_onTrail (Couples.bind_eq (ignores own.frame k) fun v => ?_)
      cases v with
      | none => exact couples_throw _
      | some v => exact couples_pure rfl
  | inPlace f =>
    cases ignoresBuffer with
    | inPlace buffers =>
      refine Stage.couples_onTrail (Couples.bind_eq (buffers own.frame k _ _) fun v => ?_)
      cases v with
      | none => exact couples_throw _
      | some v => exact couples_pure rfl
  | nested check used =>
    cases ignoresBuffer with
    | nested ignores =>
      cases used with
      | linear used => exact solveNested_renews ignores own.frame check used

theorem notes_respect_use :
    NewtonState.notes.Respect (Stage.AlikeRuns (UpTo problem D)) where
  alpha a := Running.modifyOwn_couples fun _ _ same =>
    same.map (NewtonState.notes.setAlpha a) fun _ _ _ => rfl
  theta t := Running.modifyOwn_couples fun _ _ same =>
    same.map (NewtonState.notes.setTheta t) fun _ _ _ => rfl
  same b := Running.modifyOwn_couples fun _ _ same =>
    same.map (NewtonState.notes.setSame b) fun _ _ _ => rfl
  trial p := Running.modifyOwn_couples fun _ _ same =>
    same.map (NewtonState.notes.setTrial p) fun _ _ _ => rfl
  emit event := Stage.couples_emit event event

theorem stepLength_renews :
    Couples (Stage.AlikeRuns (UpTo problem Eq)) Eq (stepLength problem k) (stepLength problem k) := by
  refine Running.getOwn_couples.bind ?_
  rintro own own' same
  obtain ⟨direction, subsolver, rfl⟩ := same.other
  obtain rfl : own.direction = direction := same.direction
  cases own.stepsize with
  | rule r => exact couples_outcome _
  | damped d => exact DampingSearch.run_couples notes_respect_use computeDirection_renews d
  | inert v => exact couples_throw _

def goAlong (problem : RootProblem α) (k : Int) : Stepping α Unit := do
  let length ← stepLength problem k
  Running.setStepsize (some length)
  let s ← Running.getOwn
  Stage.emit (.damped k length s.theta)
  let p ← problem.manifold.retract s.point (s.direction.scale length) s.retraction
  Running.modifyOwn fun s => { s with point := p, trial := p, isSame := true }

def goFrom (problem : RootProblem α) (k : Int) : Stepping α Unit := do
  let v ← computeDirection problem k
  Running.modifyOwn fun s => { s with direction := v }
  goAlong problem k

theorem goAlong_renews :
    Couples (Stage.AlikeRuns (UpTo problem Eq)) Eq (goAlong problem k) (goAlong problem k) := by
  refine stepLength_renews.bind_eq fun length => ?_
  refine (Running.setStepsize_couples _).bind_eq fun _ => Running.getOwn_couples.bind ?_
  rintro own own' same
  obtain ⟨direction, subsolver, rfl⟩ := same.other
  obtain rfl : own.direction = direction := same.direction
  refine (Stage.couples_emit _ _).bind_eq fun _ => Couples.lift_bind fun p _ => ?_
  exact Running.modifyOwn_couples fun _ _ same => same.map
    (fun s => { s with point := p, trial := p, isSame := true }) fun _ _ _ => rfl

theorem goFrom_renews {s t : Stage α (Run α (NewtonState α))}
    (before : Stage.AlikeRuns (UpTo problem D) s t) :
    Agree (Stage.AlikeRuns (UpTo problem Eq)) Eq (goFrom problem k s) (goFrom problem k t) ∨
    ∃ e u v, goFrom problem k s = .error e u ∧ goFrom problem k t = .error e v ∧
      Stage.AlikeRuns (UpTo problem D) u v := by
  have computed := computeDirection_renews (k := k) s t before
  unfold goFrom
  generalize given : computeDirection problem k s = x, given' : computeDirection problem k t = y
    at computed
  cases computed with
  | error after =>
    -- No direction has been computed: those from before are still there.
    exact .inr ⟨_, _, _, bind_of_error given, bind_of_error given', after⟩
  | @ok v _ u u' related after =>
    subst related
    left
    rw [bind_of_ok given, bind_of_ok given']
    exact goAlong_renews _ _ ⟨after.tally, { after.state with own := after.state.own.redirect v }⟩

theorem step_renews {s t : Stage α (Run α (NewtonState α))}
    (before : Stage.AlikeRuns (UpTo problem D) s t) :
    Agree (Stage.AlikeRuns (UpTo problem Eq)) Eq (step problem k s) (step problem k t) ∨
    ∃ e u v, step problem k s = .error e u ∧ step problem k t = .error e v ∧
      Stage.AlikeRuns (UpTo problem D) u v := by
  let withDirection (s : Stage α (Run α (NewtonState α))) : Stage α (Run α (NewtonState α)) :=
    { s with state := { s.state with own := { s.state.own with isSame := true } } }
  have between : Stage.AlikeRuns (UpTo problem D) (withDirection s) (withDirection t) :=
    ⟨before.tally, { before.state with
      own := before.state.own.map (fun s => { s with isSame := true }) fun _ _ _ => rfl }⟩
  exact goFrom_renews between

theorem solver_renewable {cost : Option (Tensor α → Attempt α (Trail α) α)}
    (ignores : ∀ f ∈ cost, ∀ p, Attempt.IgnoresEvents (f p)) :
    (solver problem cost).Renewable (UpTo problem fun _ _ => True) (UpTo problem Eq) where
  alike := {
    name := rfl
    level := rfl
    view := by
      rintro x y same
      obtain ⟨direction, subsolver, rfl⟩ := same.other
      obtain rfl : x.direction = direction := same.direction
      rfl
    ignores := fun _ => ignores
    setUp := by
      refine (Running.modifyOwn_couples fun _ _ same => same.map (fun s =>
        { s with
          trial := s.point, isSame := true, alpha := 1, theta := Default.initialContraction })
        fun _ _ _ => rfl).bind_eq fun _ => Running.setStepsize_couples none
    step := fun k s t before => by
      refine (step_renews before).elim id ?_
      rintro ⟨e, u, v, failed, failed', after⟩
      change Agree _ _ (step problem k s) (step problem k t)
      rw [failed, failed']
      exact .error after }
  weaken _ _ same := { same with direction := trivial }
  shown x y same := by
    obtain ⟨direction, subsolver, rfl⟩ := same.other
    exact ⟨problem.manifold, x.point, ⟨rfl, rfl⟩, ⟨rfl, rfl⟩⟩
  first s t before := step_renews before

end Newton

namespace NewtonState

structure SameSetting (x y : NewtonState α) : Prop where
  point : x.point = y.point
  stepsize : x.stepsize = y.stepsize
  retraction : x.retraction = y.retraction
  transport : x.transport = y.transport

def UpToDirection (x y : NewtonState α) : Prop :=
  ∃ direction subsolver, y = { x with direction, subsolver }

variable {problem : RootProblem α} {x y : NewtonState α}

theorem SameSetting.begun (setting : SameSetting x y) (used : x.subsolver.AfterUse y.subsolver)
    (ignoresBuffer : Subsolver.IgnoresBuffer problem x.subsolver) :
    UpTo problem (fun _ _ => True)
      { x with
        trial := x.point, isSame := true, alpha := 1, theta := Default.initialContraction }
      { y with
        trial := y.point, isSame := true, alpha := 1, theta := Default.initialContraction } := by
  obtain ⟨point, _, _, _, _, _, _, stepsize, retraction, transport⟩ := x
  obtain ⟨rfl, rfl, rfl, rfl⟩ := setting
  exact ⟨trivial, used, ignoresBuffer, y.direction, y.subsolver, rfl⟩

end NewtonState

namespace Newton

open NewtonState (UpToDirection SameSetting)

theorem solve_renews {problem : RootProblem α} {cost : Option (Tensor α → Attempt α (Trail α) α)}
    (ignores : ∀ f ∈ cost, ∀ p, Attempt.IgnoresEvents (f p))
    {s t : Stage α (Run α (NewtonState α))}
    (ignoresBuffer : Subsolver.IgnoresBuffer problem s.state.own.subsolver)
    {recorder recorder' : Option (Recorder α)} (tally : s.trail.tally = t.trail.tally)
    (used : s.state.stop.AfterUse t.state.stop)
    (used' : s.state.own.subsolver.AfterUse t.state.own.subsolver)
    (setting : SameSetting s.state.own t.state.own)
    (fields : (s.state.attach recorder).recorder.map Recorder.fields =
      (t.state.attach recorder').recorder.map Recorder.fields) (allowance : Nat) :
    Agree (Stage.AlikeRuns UpToDirection) Eq
      ((solver problem cost).solve (allowance + 1) recorder s)
      ((solver problem cost).solve (allowance + 1) recorder' t) := by
  refine Agree.mono (R := Stage.AlikeRuns (NewtonState.UpTo problem fun _ _ => True)) (V := Eq) ?_ ?_
    fun _ _ => id
  · refine (solver_renewable ignores).solve rfl rfl ⟨tally, ?_⟩ allowance
    exact ⟨used, setting.begun used' ignoresBuffer, fields, rfl⟩
  · exact fun u v after => ⟨after.tally, { after.state with own := after.state.own.other }⟩

end Newton

end ManifoldOpt
