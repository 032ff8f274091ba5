import ManifoldOpt.Proofs.Newton.Agreement
import ManifoldOpt.Proofs.Newton.Failure
import ManifoldOpt.Proofs.Newton.Parting
import ManifoldOpt.Proofs.Subgradient.Parting
import ManifoldOpt.Report

set_option autoImplicit false

namespace ManifoldOpt

open Attempt

variable {α : Type} [Scalar α] {f : Outcome α (Tensor α) → Callback α} {g : Callback α}
  {name : String} {calls : List Nat → Nat} {m : Nat} {parting : Parting α}

namespace StartPoint

variable {problem : CostProblem α} (start : StartPoint α) {h h' : Procedure α}

theorem posed_splits (gives : h.Gives) (gives' : h'.Gives)
    (splits : ∀ buffer p, parting.Splits Eq (h.evaluate buffer p) (h'.evaluate buffer p))
    (costs : ∀ p, Keeps parting.going (problem.cost p)) :
    (start.posed (problem.withSubgradient h)).Splits parting
      (start.posed (problem.withSubgradient h')) := by
  have plain : (problem.withSubgradient h).Splits parting (problem.withSubgradient h') := {
    manifold := rfl
    cost := rfl
    costs := fun p => (costs p).bind fun v => by
      cases v with
      | none => exact keeps_throw _
      | some v => exact keeps_liftM _
    subgradient := splits }
  cases start with
  | array p => exact plain
  | random seed => exact plain
  | number x =>
    refine ⟨rfl, rfl, Subgradient.liftNumbers_costs costs, fun buffer p => ?_⟩
    change parting.Splits Eq
      ((Subgradient.liftNumbers (problem.withSubgradient h)).subgradientInto buffer p)
      ((Subgradient.liftNumbers (problem.withSubgradient h')).subgradientInto buffer p)
    rw [Subgradient.liftNumbers_into gives, Subgradient.liftNumbers_into gives']
    exact CouplesUnless.lift_bind fun x => (splits _ x).bind_silent fun v I => keeps_pure _

theorem posed_counted (gives : h.Gives)
    (counted : ∀ buffer p s, calls (left (h.evaluate buffer p s)).tally = calls s.tally + 1)
    (costs : ∀ count p, Keeps (fun t => calls t.tally = count) (problem.cost p)) :
    (start.posed (problem.withSubgradient h)).Counted calls := by
  have taken {buffer p s v t} (taken : h.evaluate buffer p s = .ok v t) :
      calls t.tally = calls s.tally + 1 := by
    rw [← counted buffer p s, taken]
    rfl
  have failed {buffer p s e t} (failed : h.evaluate buffer p s = .error e t) :
      calls t.tally ≤ calls s.tally + 1 := by
    rw [← counted buffer p s, failed]
    exact Nat.le_refl _
  have plain : (problem.withSubgradient h).Counted calls := {
    costs := fun count p => (costs count p).bind fun v => by
      cases v with
      | none => exact keeps_throw _
      | some v => exact keeps_liftM _
    taken := fun _ _ _ _ _ => taken
    failed := fun _ _ _ _ _ => failed }
  cases start with
  | array p => exact plain
  | random seed => exact plain
  | number x =>
    refine ⟨fun count => Subgradient.liftNumbers_costs (costs count), ?_, ?_⟩
    · intro buffer p s v t done
      change (Subgradient.liftNumbers (problem.withSubgradient h)).subgradientInto buffer p s = _
        at done
      rw [Subgradient.liftNumbers_into gives] at done
      obtain ⟨x, -, done⟩ := liftM_bind_eq_ok.mp done
      obtain ⟨w, u, called, done⟩ := bind_eq_ok.mp done
      cases done
      exact taken called
    · intro buffer p s e t done
      change (Subgradient.liftNumbers (problem.withSubgradient h)).subgradientInto buffer p s = _
        at done
      rw [Subgradient.liftNumbers_into gives] at done
      -- If the array has no entry, the function is not called at all.
      rcases bind_eq_error.mp done with entry | ⟨x, _, entry, done⟩
      · obtain ⟨-, rfl⟩ := liftM_eq_error.mp entry
        exact Nat.le_succ _
      obtain ⟨-, rfl⟩ := liftM_eq_ok.mp entry
      rcases bind_eq_error.mp done with called | ⟨w, u, called, done⟩
      · exact failed called
      · cases done

theorem solver_posed (gives : h.Gives) (gives' : h'.Gives)
    (same : ∀ buffer p, h.evaluate buffer p = h'.evaluate buffer p) :
    Subgradient.solver (start.posed (problem.withSubgradient h)) =
      Subgradient.solver (start.posed (problem.withSubgradient h')) := by
  cases start with
  | array p => exact Subgradient.solver_congr rfl rfl same
  | random seed => exact Subgradient.solver_congr rfl rfl same
  | number x =>
    refine Subgradient.solver_congr rfl rfl fun buffer p => ?_
    change (Subgradient.liftNumbers (problem.withSubgradient h)).subgradientInto buffer p =
      (Subgradient.liftNumbers (problem.withSubgradient h')).subgradientInto buffer p
    rw [Subgradient.liftNumbers_into gives, Subgradient.liftNumbers_into gives']
    exact bind_congr fun x => congrArg (· >>= _) (same _ x)

end StartPoint

namespace Subgradient

theorem minimize_withSubgradient {problem : CostProblem α} {h h' : Procedure α} (gives : h.Gives)
    (gives' : h'.Gives) (same : ∀ buffer p, h.evaluate buffer p = h'.evaluate buffer p)
    (options : Options α) (start : StartPoint α) :
    minimize (problem.withSubgradient h) options start =
      minimize (problem.withSubgradient h') options start := by
  have solvers : solver (start.posed (problem.withSubgradient h)) =
      solver (start.posed (problem.withSubgradient h')) := start.solver_posed gives gives' same
  have runs (p : Tensor α) : minimizeFrom (start.posed (problem.withSubgradient h)) options p =
      minimizeFrom (start.posed (problem.withSubgradient h')) options p := by
    unfold minimizeFrom
    rw [solvers]
    cases start <;> rfl
  cases start with
  | array p => exact runs p
  | number x => exact bind_congr fun x => runs (.vector [x])
  | random seed => exact bind_congr runs

/-- The run for `problem` fails in iteration `n + 1`, which makes the `m`-th call. The iterations
before are those for `problem'`, and what they have left stays as it is. -/
structure ForgetsIn (calls : List Nat → Nat) (m : Nat) (name : String)
    (problem problem' : CostProblem α) (recorder : Option (Recorder α))
    (first : Stage α (Run α (SubgradientState α))) (n : Nat)
    (stages : Nat → Stage α (Run α (SubgradientState α)))
    (last : Stage α (Run α (SubgradientState α))) : Prop where
  reference : Solver.Course (solver problem') recorder first n stages
  broken : Solver.BreaksOff (solver problem) recorder first n stages (.forgottenBuffer name) last
  call : calls first.trail.tally + n + 1 = m
  own : last.state.own =
    { (stages n).state.own with directionPoint := (stages n).state.own.point }
  iteration : last.state.iteration = n
  recorder : last.state.recorder = (stages n).state.recorder

/-- The runs for two problems are the same up to the `m`-th call: either it is not made, or the first
run fails in the iteration that makes it. -/
def SameUntil (calls : List Nat → Nat) (m : Nat) (name : String) (problem problem' : CostProblem α) :
    Prop :=
  ∀ (first : Stage α (Run α (SubgradientState α))) recorder allowance,
    calls first.trail.tally < m →
    ((solver problem).solve allowance recorder first =
        (solver problem').solve allowance recorder first ∧
      calls (left ((solver problem).solve allowance recorder first)).trail.tally < m) ∨
    ∃ n stages last, n < allowance ∧
      ForgetsIn calls m name problem problem' recorder first n stages last ∧
      (solver problem).solve allowance recorder first = .error (.forgottenBuffer name) last

theorem sameUntil_of_splits {problem problem' : CostProblem α}
    (splits : problem.Splits (.atCall calls m name) problem') (counted : problem.Counted calls) :
    SameUntil calls m name problem problem' := by
  intro first recorder allowance before
  refine ((solver_parts splits).solve_same before recorder allowance).imp_right ?_
  rintro ⟨n, stages, t, last, unspent, reference, broken, below, going, forgotten⟩
  refine ⟨n, stages, last, unspent, ?_, broken.solve_eq unspent⟩
  obtain ⟨reached, asked⟩ := course_counted counted broken.course (Nat.le_refl n)
  have between := asked _ _ going
  have called := counted.failed _ _ _ _ _ forgotten.broken
  have count : calls last.trail.tally = m := forgotten.apart.1
  have uncounted : calls (stages n).trail.tally < m := below
  obtain ⟨memory, left⟩ := Solver.shouldStop_state going
  have state := forgotten.state
  rw [beginning, left] at state
  refine ⟨reference, broken, by omega, ?_, broken.iteration_eq (solver_leavesDriver problem), ?_⟩
  · rw [state]
  · rw [state]

end Subgradient

section Directions

variable {problem : RootProblem α} {h h' : Procedure α}

theorem RootProblem.splits_of_evaluate
    (splits : ∀ buffer p, parting.Splits Eq (h.evaluate buffer p) (h'.evaluate buffer p))
    (derivative : ∀ p, Keeps parting.going (problem.derivative p)) :
    problem.Splits parting h h' where
  map _ := CouplesUnless.lift_bind fun buffer => splits buffer _
  derivative := derivative

theorem Subsolver.direct_splits (splits : problem.Splits parting h h') (frame : Frame α) (k : Int) :
    parting.Splits Eq (direct (problem.mapping h) frame k) (direct (problem.mapping h') frame k) :=
  (splits.newtonVector .off _ _ _).bind_silent fun _ _ => keeps_pure _

theorem Subsolver.directInto_splits (splits : problem.Splits parting h h')
    (buffer : Outcome α (Tensor α)) (frame : Frame α) (k : Int) :
    parting.Splits Eq (directInto buffer (problem.mapping h) frame k)
      (directInto buffer (problem.mapping h') frame k) :=
  (splits.newtonVector .off _ _ _).bind_silent fun _ _ =>
    (keeps_liftM _).bind fun _ => (keeps_liftM _).bind fun _ => keeps_pure _

end Directions

namespace Newton

open NewtonState (UpToProblem)

variable {problem : RootProblem α} {h h' : Procedure α}

theorem Parted.apart {k : Int} {s t u : Stage α (Run α (NewtonState α))}
    (parted : Parted parting problem h h' k s t u) : ∃ v, parting.apart u.trail v := by
  cases parted with
  | direction broken apart => exact ⟨_, apart⟩
  | trial solved solved' searches =>
    obtain ⟨p, -, -, apart⟩ := searches.broken
    exact ⟨_, apart⟩

/-- The runs for two procedures that compute the map are the same, stage by stage and in how they end,
if the functions of the sub-solver do not tell the procedures apart. -/
structure SameRuns (problem : RootProblem α) (h h' : Procedure α) : Prop where
  solve : ∀ cost recorder (first : Stage α (Run α (NewtonState α))) allowance,
    first.state.own.subsolver.Splits .never (problem.mapping h) (problem.mapping h') →
    Agree (Stage.SameTrailRuns NewtonState.UpToSource) Eq
      ((solver (problem.mapping h) cost).solve allowance recorder first)
      ((solver (problem.mapping h') cost).solve allowance recorder first)
  course : ∀ cost recorder (first : Stage α (Run α (NewtonState α))) n stages,
    first.state.own.subsolver.Splits .never (problem.mapping h) (problem.mapping h') →
    Solver.Course (solver (problem.mapping h) cost) recorder first n stages →
    ∃ stages', Solver.Course (solver (problem.mapping h') cost) recorder first n stages' ∧
      ∀ k ≤ n, Stage.SameTrailRuns NewtonState.UpToSource (stages k) (stages' k)
  findZero : ∀ (options : Options α) p trail,
    (∀ subsolver, chooseSubsolver options.subproblem options.substate = .ok subsolver →
      subsolver.Splits .never (problem.mapping h) (problem.mapping h')) →
    Agree Eq (Run.Alike NewtonState.UpToSource) (findZero (problem.mapping h) options p trail)
      (findZero (problem.mapping h') options p trail)

theorem upToProblem_self {own : NewtonState α}
    (splits : own.subsolver.Splits parting (problem.mapping h) (problem.mapping h')) :
    UpToProblem parting (problem.mapping h) (problem.mapping h') own own :=
  ⟨⟨.refl _, _, rfl⟩, splits⟩

theorem together_self {first : Stage α (Run α (NewtonState α))} (going : parting.going first.trail)
    (splits : first.state.own.subsolver.Splits parting (problem.mapping h) (problem.mapping h')) :
    Together parting problem h h' first first :=
  ⟨⟨rfl, going⟩, ⟨rfl, upToProblem_self splits, rfl, rfl, rfl⟩⟩

theorem sameRuns_of_splits (splits : problem.Splits .never h h') : SameRuns problem h h' := by
  have joined (cost) := (solver_parts splits cost fun _ _ _ => Parting.never_keeps _).joined
    fun k s t u parted => parted.apart.elim fun _ apart => apart
  have twins {s t : Stage α (Run α (NewtonState α))} (alike : Together .never problem h h' s t) :
      Stage.SameTrailRuns NewtonState.UpToSource s t :=
    ⟨alike.trail.1, { alike.state with own := alike.state.own.alike }⟩
  have solved (cost) (recorder : Option (Recorder α)) (first : Stage α (Run α (NewtonState α)))
      (allowance : Nat)
      (passes : first.state.own.subsolver.Splits .never (problem.mapping h) (problem.mapping h')) :
      Agree (Stage.SameTrailRuns NewtonState.UpToSource) Eq
        ((solver (problem.mapping h) cost).solve allowance recorder first)
        ((solver (problem.mapping h') cost).solve allowance recorder first) :=
    ((joined cost).solve allowance recorder _ _ (together_self trivial passes)).mono
      (fun _ _ => twins) fun _ _ => id
  refine ⟨solved, ?_, ?_⟩
  · intro cost recorder first n stages passes course
    obtain ⟨stages', course', alike⟩ := (joined cost).course (together_self trivial passes) course
    exact ⟨stages', course', fun k inside => twins (alike k inside)⟩
  · intro options p trail passes
    refine Couples.lift_bind (fun start prepared => Couples.lift_bind fun recorder _ => ?_) trail
      trail rfl
    obtain ⟨subsolver, chosen, rest⟩ := Outcome.bind_eq_ok.mp prepared
    cases rest
    refine Couples.bind (V := fun b c => Run.Alike NewtonState.UpToSource b.2 c.2) ?_ ?_
    · rintro t _ rfl
      refine (Stage.joined_runFrom (solved none recorder ⟨t, _⟩ _ (passes _ chosen))).mono
        (fun _ _ => id) fun _ _ both => both.2
    · rintro ⟨_, r⟩ ⟨_, r'⟩ alike
      exact couples_pure alike

/-- The run for the procedure `h` fails in iteration `n + 1`: there the direction at the iterate, or
that at a trial point, makes the `m`-th call. The iterations before are like those for `h'`, and the
iterate, the count of iterations and the records stay as they have left them. -/
structure ForgetsIn (calls : List Nat → Nat) (m : Nat) (name : String) (problem : RootProblem α)
    (h h' : Procedure α) (cost : Option (Tensor α → Attempt α (Trail α) α))
    (recorder : Option (Recorder α)) (first : Stage α (Run α (NewtonState α))) (n : Nat)
    (stages stages' : Nat → Stage α (Run α (NewtonState α)))
    (last : Stage α (Run α (NewtonState α))) : Prop where
  parted : Solver.PartsAt (Trail.Both fun t => calls t.tally < m)
    (UpToProblem (.atCall calls m name) (problem.mapping h) (problem.mapping h'))
    (.forgottenBuffer name) (Parted (.atCall calls m name) problem h h')
    (solver (problem.mapping h) cost) (solver (problem.mapping h') cost) recorder first first n
    stages stages' last
  call : calls last.trail.tally = m
  point : last.state.own.point = (stages n).state.own.point
  iteration : last.state.iteration = n
  recorder : last.state.recorder = (stages n).state.recorder

def SameUntil (calls : List Nat → Nat) (m : Nat) (name : String) (problem : RootProblem α)
    (h h' : Procedure α) : Prop :=
  ∀ cost recorder (first : Stage α (Run α (NewtonState α))) allowance,
    (∀ c ∈ cost, ∀ count p, Keeps (fun t => calls t.tally = count) (c p)) →
    first.state.own.subsolver.Splits (.atCall calls m name) (problem.mapping h)
      (problem.mapping h') →
    calls first.trail.tally < m →
    Agree (Stage.JoinedRuns (Trail.Both fun t => calls t.tally < m) NewtonState.UpToSource) Eq
      ((solver (problem.mapping h) cost).solve allowance recorder first)
      ((solver (problem.mapping h') cost).solve allowance recorder first) ∨
    ∃ n stages stages' last, n < allowance ∧
      ForgetsIn calls m name problem h h' cost recorder first n stages stages' last ∧
      (solver (problem.mapping h) cost).solve allowance recorder first =
        .error (.forgottenBuffer name) last

theorem sameUntil_of_splits (splits : problem.Splits (.atCall calls m name) h h') :
    SameUntil calls m name problem h h' := by
  intro cost recorder first allowance costs passes before
  have uncounted : ∀ c ∈ cost, ∀ p, Keeps (Parting.atCall calls m name).going (c p) :=
    fun c given p => Parting.atCall_keeps fun count => costs c given count p
  have start : Together (.atCall calls m name) problem h h' first first :=
    together_self before passes
  refine ((solver_parts splits cost uncounted).solve start recorder allowance).imp ?_ ?_
  · intro agree
    refine agree.mono (fun s t alike => ?_) fun _ _ => id
    exact ⟨alike.trail, { alike.state with own := alike.state.own.alike }⟩
  · rintro ⟨n, stages, stages', last, unspent, parted⟩
    have broken := parted.breaksOff
    have leaves := solver_leavesDriver (problem.mapping h) cost
    obtain ⟨_, _, _, _, _, _, apart⟩ := parted.broken
    obtain ⟨v, call, -⟩ := apart.apart
    obtain ⟨t, memory, failed, same⟩ := broken.stepped
    obtain ⟨-, point⟩ := step_eq_error failed
    rw [same] at point
    refine ⟨n, stages, stages', last, unspent, ?_, broken.solve_eq unspent⟩
    exact ⟨parted, call, point, broken.iteration_eq leaves, broken.recorder_eq leaves⟩

end Newton

/-- Whichever convention a procedure follows, the runs are the same if it gives the same arrays. If
one that fills buffers forgets that of its `m`-th call, the run fails in the iteration or the trial
that makes this call, with the kind of fault that a wrong type has. -/
theorem conventions_agree (name : String) (f : Outcome α (Tensor α) → Callback α)
    (g : Callback α) :
    (g.FilledBy f →
      (∀ (problem : CostProblem α) options start,
        Subgradient.minimize (problem.withSubgradient (.inPlace name f)) options start =
          Subgradient.minimize (problem.withSubgradient (.allocating g)) options start) ∧
      (∀ (problem : CostProblem α) (start : StartPoint α),
        Subgradient.solver (start.posed (problem.withSubgradient (.inPlace name f))) =
          Subgradient.solver (start.posed (problem.withSubgradient (.allocating g)))) ∧
      ∀ problem : RootProblem α, Newton.SameRuns problem (.inPlace name f) (.allocating g)) ∧
    (∀ calls m, g.ForgottenAt calls m f →
      (∀ (problem : CostProblem α) (start : StartPoint α),
        (∀ count p, Keeps (fun t => calls t.tally = count) (problem.cost p)) →
        Subgradient.SameUntil calls m name
          (start.posed (problem.withSubgradient (.inPlace name f)))
          (start.posed (problem.withSubgradient (.allocating g)))) ∧
      ∀ problem : RootProblem α,
        (∀ count p, Keeps (fun t => calls t.tally = count) (problem.derivative p)) →
        Newton.SameUntil calls m name problem (.inPlace name f) (.allocating g)) ∧
    (Fault.forgottenBuffer name : Fault Float).report.kind = .wrongType := by
  refine ⟨fun filled => ⟨?_, ?_, ?_⟩, fun calls m forgotten => ⟨?_, ?_⟩, rfl⟩
  · exact fun problem => Subgradient.minimize_withSubgradient trivial filled.gives filled.evaluate
  · exact fun problem start => start.solver_posed trivial filled.gives filled.evaluate
  · refine fun problem => Newton.sameRuns_of_splits ?_
    exact RootProblem.splits_of_evaluate filled.splits fun _ => Parting.never_keeps _
  · intro problem start costs
    refine Subgradient.sameUntil_of_splits ?_ ?_
    · exact start.posed_splits trivial forgotten.gives forgotten.splits fun p =>
        Parting.atCall_keeps fun count => costs count p
    · exact start.posed_counted trivial forgotten.evaluate_counted costs
  · intro problem derivative
    refine Newton.sameUntil_of_splits ?_
    exact RootProblem.splits_of_evaluate forgotten.splits fun p =>
      Parting.atCall_keeps fun count => derivative count p

section Rules

variable {α : Type} (rule : Tensor α → Tensor α)

def countedRule : Callback α := fun p => do
  let _ ← Trail.count 0
  return some (rule p)

def forgetfulRule (m : Nat) : Outcome α (Tensor α) → Callback α := fun _ p => do
  let call ← Trail.count 0
  if call = m then return none
  return some (rule p)

def firstCounter (tally : List Nat) : Nat := tally.getD 0 0

theorem countedRule_gives : (Procedure.allocating (countedRule rule)).Gives := by
  intro p s t done
  obtain ⟨call, u, -, done⟩ := bind_eq_ok.mp done
  cases done

theorem forgetfulRule_eq {m : Nat} {s : Trail α} (other : firstCounter s.tally + 1 ≠ m)
    (buffer : Outcome α (Tensor α)) (p : Tensor α) :
    forgetfulRule rule m buffer p s = countedRule rule p s := by
  have called : Trail.count 0 s = .ok (firstCounter s.tally + 1) (left (Trail.count 0 s)) := rfl
  unfold forgetfulRule countedRule
  rw [bind_of_ok called, bind_of_ok called, if_neg other]

theorem countedRule_forgotten (m : Nat) :
    (countedRule rule).ForgottenAt firstCounter m (forgetfulRule rule m) where
  gives := countedRule_gives rule
  counted _ s := Trail.count_tally 0 s
  same buffer p _ other := forgetfulRule_eq rule other (.ok buffer) p
  forgotten buffer p s last := by
    have called : Trail.count 0 s = .ok (firstCounter s.tally + 1) (left (Trail.count 0 s)) := rfl
    refine ⟨left (Trail.count 0 s), ?_, (Trail.count_tally 0 s).trans last⟩
    unfold forgetfulRule
    rw [bind_of_ok called, if_pos last]
    rfl

theorem countedRule_filled : (countedRule rule).FilledBy (forgetfulRule rule 0) where
  gives := countedRule_gives rule
  same _ p := funext fun _ => forgetfulRule_eq rule (Nat.succ_ne_zero _) _ p

end Rules

-- Twice the identity, with a derivative that is twice too large: each step goes half the way to zero.
def halving : RootProblem Float where
  manifold := euclidean [1]
  bundle := .tangent (euclidean [1])
  map := .allocating (countedRule (·.scale 2))
  derivative _ := return .action fun v => .ok (v.scale 4)

def halvingFromOne : Run Float (NewtonState Float) where
  stop := .after 5
  own := .start (euclidean [1]) (.tangent (euclidean [1])) (.vector [1])
    (.allocating Newton.directFunction) none none .none .none

open Subgradient (parabola fromPoint) in
theorem conventions_agree_forgetful :
    (∀ options start,
      Subgradient.minimize (parabola.withSubgradient
          (.inPlace "forgetful" (forgetfulRule (·.scale 2) 0))) options start =
        Subgradient.minimize (parabola.withSubgradient
          (.allocating (countedRule (·.scale 2)))) options start) ∧
    (∃ stages last, Subgradient.ForgetsIn firstCounter 3 "forgetful"
      ((StartPoint.number (.int 1)).posed (parabola.withSubgradient
        (.inPlace "forgetful" (forgetfulRule (·.scale 2) 3))))
      ((StartPoint.number (.int 1)).posed (parabola.withSubgradient
        (.allocating (countedRule (·.scale 2)))))
      none (fromPoint 1 0.25 (.after 5)) 2 stages last) ∧
    ∃ stages stages' last, Newton.ForgetsIn firstCounter 4 "forgetful" halving
      (.inPlace "forgetful" (forgetfulRule (·.scale 2) 4))
      (.allocating (countedRule (·.scale 2))) none none ⟨{}, halvingFromOne⟩ 1 stages stages' last ∧
      last.state.own.trial.entries = [0.25] := by
  refine ⟨?_, ?_, ?_⟩
  · have filled := countedRule_filled fun p : Tensor Float => p.scale 2
    exact ((conventions_agree "forgetful" _ _).1 filled).1 parabola
  · have forgotten := countedRule_forgotten (fun p : Tensor Float => p.scale 2) 3
    have same := ((conventions_agree "forgetful" _ _).2.1 _ _ forgotten).1 parabola (.number (.int 1))
      (fun count p => keeps_pure _) (fromPoint 1 0.25 (.after 5)) none 6 (by decide)
    have called : firstCounter (left ((Subgradient.solver ((StartPoint.number (.int 1)).posed
        (parabola.withSubgradient (.inPlace "forgetful" (forgetfulRule (·.scale 2) 3))))).solve 6
        none (fromPoint 1 0.25 (.after 5)))).trail.tally = 3 := by decide +kernel
    obtain ⟨-, below⟩ | ⟨n, stages, last, -, forgets, -⟩ := same
    · rw [called] at below
      exact absurd below (Nat.lt_irrefl 3)
    · obtain rfl : n = 2 := by
        have call : 0 + n + 1 = 3 := forgets.call
        omega
      exact ⟨stages, last, forgets⟩
  · have forgotten := countedRule_forgotten (fun p : Tensor Float => p.scale 2) 4
    have derivative (count : Nat) (p : Tensor Float) :
        Keeps (fun t => firstCounter t.tally = count) (halving.derivative p) := keeps_pure _
    have splits := RootProblem.splits_of_evaluate (h := .inPlace "forgetful" _) forgotten.splits
      fun p => Parting.atCall_keeps fun count => derivative count p
    have same := ((conventions_agree "forgetful" _ _).2.1 _ _ forgotten).2 halving derivative none
      none ⟨{}, halvingFromOne⟩ 6 nofun (.allocating (Subsolver.direct_splits splits)) (by decide)
    have ends : ((fun s : Stage Float (Run Float (NewtonState Float)) =>
        (firstCounter s.trail.tally, s.state.iteration, s.state.own.trial.entries))
        (left ((Newton.solver (halving.mapping (.inPlace "forgetful"
          (forgetfulRule (·.scale 2) 4))) none).solve 6 none ⟨{}, halvingFromOne⟩))) =
          (4, 1, [0.25]) := by decide +kernel
    obtain ⟨called, rest⟩ := Prod.mk.inj ends
    obtain ⟨iteration, trial⟩ := Prod.mk.inj rest
    rcases same with agree | ⟨n, stages, stages', last, -, forgets, failed⟩
    · have below := agree.left.trail.2
      beta_reduce at below
      rw [called] at below
      exact absurd below (Nat.lt_irrefl 4)
    · rw [failed] at iteration trial
      obtain rfl : n = 1 := by
        have same : last.state.iteration = 1 := iteration
        rw [forgets.iteration] at same
        omega
      exact ⟨stages, stages', last, forgets, trial⟩

end ManifoldOpt
