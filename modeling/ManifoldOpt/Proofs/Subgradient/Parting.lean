import ManifoldOpt.Proofs.Problem.Conventions
import ManifoldOpt.Proofs.Solver.Parting
import ManifoldOpt.Proofs.Subgradient.Step

set_option autoImplicit false

namespace ManifoldOpt

open Attempt

variable {α : Type} [Scalar α] {parting : Parting α} {problem problem' : CostProblem α}
  {calls : List Nat → Nat}

namespace CostProblem

def withSubgradient (problem : CostProblem α) (f : Procedure α) : CostProblem α :=
  { problem with subgradient := f }

/-- Problems of one cost, with subgradients that are the same unless the first procedure breaks
off. -/
structure Splits (parting : Parting α) (problem problem' : CostProblem α) : Prop where
  manifold : problem'.manifold = problem.manifold
  cost : problem'.cost = problem.cost
  costs : ∀ p, Keeps parting.going (problem.costAt p)
  subgradient : ∀ buffer p, parting.Splits Eq (problem.subgradientInto buffer p)
    (problem'.subgradientInto buffer p)

structure Counted (calls : List Nat → Nat) (problem : CostProblem α) : Prop where
  costs : ∀ count p, Keeps (fun t => calls t.tally = count) (problem.costAt p)
  taken : ∀ buffer p s v t, problem.subgradientInto buffer p s = .ok v t →
    calls t.tally = calls s.tally + 1
  failed : ∀ buffer p s e t, problem.subgradientInto buffer p s = .error e t →
    calls t.tally ≤ calls s.tally + 1

end CostProblem

namespace Subgradient

theorem liftNumbers_into (gives : problem.subgradient.Gives) (buffer p : Tensor α) :
    (liftNumbers problem).subgradientInto buffer p = (do
      let x ← firstEntry p
      let v ← problem.subgradientInto (x.scale 0) x
      return atLeastVector v) := by
  change (liftM (firstEntry p) >>= _) >>= _ = liftM (firstEntry p) >>= _
  rw [bind_assoc]
  refine bind_congr fun x => funext fun s => ?_
  obtain ⟨M, cost, subgradient⟩ := problem
  cases subgradient with
  | inPlace name f =>
    change ((f (.ok (x.scale 0)) x >>= _) >>= _) s = ((f (.ok (x.scale 0)) x >>= _) >>= _) s
    rw [bind_assoc, bind_assoc]
    refine congrFun (bind_congr fun v => ?_) s
    cases v with
    | none => rfl
    | some v => rfl
  | allocating g =>
    change ((g x >>= _) >>= _) s = ((g x >>= _) >>= _) s
    rw [bind_assoc, bind_assoc]
    cases given : g x s with
    | error e t => rw [bind_of_error given, bind_of_error given]
    | ok v t =>
      rw [bind_of_ok given, bind_of_ok given]
      cases v with
      | none => exact absurd given (gives x s t)
      | some v => rfl

theorem liftNumbers_costs {I : Trail α → Prop} (costs : ∀ p, Keeps I (problem.cost p))
    (p : Tensor α) : Keeps I ((liftNumbers problem).costAt p) := by
  refine Keeps.bind (Keeps.lift_bind fun x _ => costs x) fun v => ?_
  cases v with
  | none => exact keeps_throw _
  | some v => exact keeps_liftM _

theorem solver_congr (manifold : problem.manifold = problem'.manifold)
    (cost : problem.cost = problem'.cost)
    (same : ∀ buffer p, problem.subgradientInto buffer p = problem'.subgradientInto buffer p) :
    solver problem = solver problem' := by
  have costs : problem.costAt = problem'.costAt := by
    unfold CostProblem.costAt
    rw [cost]
  have steps : step problem = step problem' := by
    unfold step
    simp only [same, manifold, costs]
  unfold solver view setUp
  rw [manifold, costs, steps]

def beginning (s : Stage α (Run α (SubgradientState α))) : Stage α (Run α (SubgradientState α)) :=
  { s with state := { s.state with
      own := { s.state.own with directionPoint := s.state.own.point } } }

structure Parted (parting : Parting α) (problem problem' : CostProblem α)
    (s u : Stage α (Run α (SubgradientState α))) : Prop where
  broken : problem.subgradientInto s.state.own.direction s.state.own.point s.trail =
    .error parting.fault u.trail
  apart : parting.apart u.trail
    (left (problem'.subgradientInto s.state.own.direction s.state.own.point s.trail))
  state : u.state = (beginning s).state

def goAgainst (problem : CostProblem α) (k : Int) (v : Tensor α) : Stepping α Unit := do
  Running.modifyOwn fun s => { s with direction := v }
  let length ← stepLength problem.manifold k
  Running.setStepsize (some length)
  let s ← Running.getOwn
  let p ← problem.manifold.retract s.point (s.direction.scale (-length)) s.retraction
  Running.modifyOwn fun s => { s with point := p }
  let cost ← Stage.onTrail (problem.costAt p)
  keepBest cost

theorem step_eq_goAgainst (k : Int) (s : Stage α (Run α (SubgradientState α))) :
    step problem k s = (Stage.onTrail (problem.subgradientInto s.state.own.direction
      s.state.own.point) >>= goAgainst problem k) (beginning s) := rfl

section Trails

variable {I : Trail α → Prop} (emits : ∀ event, Keeps I (Trail.emit event))

include emits

theorem stepLength_keeps_trail (M : Manifold α) (k : Int) :
    Keeps (fun s => I s.trail) (stepLength M k) := by
  refine Keeps.bind (fun _ before => before) fun own => ?_
  cases own.stepsize with
  | rule r => exact keeps_liftM _
  | inert v => exact keeps_throw _
  | damped d =>
    have respected : SubgradientState.notes.Respect
        fun s t : Stage α (Run α (SubgradientState α)) => s = t ∧ I s.trail := {
      alpha := fun a => keeps_iff_couples.mp fun _ before => before
      theta := fun a => keeps_iff_couples.mp fun _ before => before
      same := fun a => keeps_iff_couples.mp fun _ before => before
      trial := fun a => keeps_iff_couples.mp fun _ before => before
      emit := fun event => keeps_iff_couples.mp (Stage.keeps_onTrail_of
        (fun _ before => before) (fun _ _ _ after => after) (emits event)) }
    exact keeps_iff_couples.mpr (DampingSearch.run_couples respected (couples_throw _) d)

theorem goAgainst_keeps_trail (costs : ∀ p, Keeps I (problem.costAt p)) (k : Int) (v : Tensor α) :
    Keeps (fun s => I s.trail) (goAgainst problem k v) := by
  refine Keeps.bind (fun _ before => before) fun _ => ?_
  refine (stepLength_keeps_trail emits _ k).bind fun length => ?_
  refine Keeps.bind (fun _ before => before) fun _ => Keeps.bind (fun _ before => before) fun own => ?_
  refine (keeps_liftM _).bind fun p => Keeps.bind (fun _ before => before) fun _ => ?_
  refine Keeps.bind (Stage.keeps_onTrail_of (fun _ before => before) (fun _ _ _ after => after)
    (costs p)) fun cost => Keeps.bind (fun _ before => before) fun own => ?_
  cases own.bestCost with
  | none => exact keeps_throw _
  | some best => exact Keeps.ite (fun _ _ before => before) fun _ => keeps_pure _

end Trails

theorem setUp_keeps_trail {I : Trail α → Prop} (costs : ∀ p, Keeps I (problem.costAt p)) :
    Keeps (fun s => I s.trail) (setUp problem) := by
  refine Keeps.bind (fun _ before => before) fun _ => Keeps.bind (fun _ before => before) fun own => ?_
  refine Keeps.bind (Stage.keeps_onTrail_of (fun _ before => before) (fun _ _ _ after => after)
    (costs own.best)) fun cost => Keeps.bind (fun _ before => before) fun _ => ?_
  exact fun _ before => before

section Steps

variable (splits : problem.Splits parting problem')

include splits

theorem step_parts (k : Int) {s t : Stage α (Run α (SubgradientState α))}
    (before : Stage.JoinedRuns (Trail.Both parting.going) Eq s t) :
    Agree (Stage.JoinedRuns (Trail.Both parting.going) Eq) Eq (step problem k s)
        (step problem' k t) ∨
      ∃ u, step problem k s = .error parting.fault u ∧ Parted parting problem problem' s u := by
  rw [Stage.joinedRuns_eq_joined, Stage.joined_both_eq] at before ⊢
  obtain ⟨rfl, going⟩ := before
  have rest : goAgainst problem' k = goAgainst problem k := by
    unfold goAgainst CostProblem.costAt
    rw [splits.manifold, splits.cost]
  rw [step_eq_goAgainst, step_eq_goAgainst, rest]
  have result := Stage.onTrail_unless (splits.subgradient s.state.own.direction s.state.own.point)
    (beginning s) (beginning s) ⟨⟨rfl, going⟩, rfl⟩
  generalize given : Stage.onTrail (problem.subgradientInto s.state.own.direction
      s.state.own.point) (beginning s) = x,
    given' : Stage.onTrail (problem'.subgradientInto s.state.own.direction
      s.state.own.point) (beginning s) = y at result
  cases result with
  | agree agree =>
    refine .inl ?_
    rw [Stage.joined_both_eq] at agree
    cases agree with
    | error after =>
      rw [bind_of_error given, bind_of_error given']
      exact .error after
    | ok related after =>
      subst related
      rw [bind_of_ok given, bind_of_ok given']
      exact keeps_iff_couples.mp (goAgainst_keeps_trail parting.going_emit splits.costs k _) _ _
        after
  | @broken u _ apart =>
    obtain ⟨trail, taken, rfl⟩ := Stage.onTrail_eq_error.mp given
    refine .inr ⟨_, bind_of_error given, taken, ?_, rfl⟩
    rw [← given'] at apart
    exact Stage.left_onTrail _ (beginning s) ▸ apart

theorem solver_parts :
    Solver.Parts (Trail.Both parting.going) Eq parting.fault
      (fun _ s _ u => Parted parting problem problem' s u) (solver problem) (solver problem') where
  idle := by
    have same : (solver problem').idle = (solver problem).idle := by
      obtain ⟨M, cost, g⟩ := problem'
      obtain rfl : M = problem.manifold := splits.manifold
      obtain rfl : cost = problem.cost := splits.cost
      simp only [Solver.idle, solver, setUp, CostProblem.costAt]
      rfl
    rw [same]
    refine Solver.joined_both parting.going_emit ?_ (setUp_keeps_trail splits.costs) fun _ =>
      keeps_pure _
    rintro x _ ⟨rfl⟩
    exact splits.costs
  step k _ _ before := step_parts splits k before

end Steps

section Counting

variable (counted : problem.Counted calls)

include counted

theorem step_counted {k : Int} {s t : Stage α (Run α (SubgradientState α))}
    (done : step problem k s = .ok () t) :
    calls t.trail.tally = calls s.trail.tally + 1 := by
  rw [step_eq_goAgainst] at done
  obtain ⟨v, _, called, rest⟩ := bind_eq_ok.mp done
  obtain ⟨trail, taken, rfl⟩ := Stage.onTrail_eq_ok.mp called
  have count := counted.taken _ _ _ _ _ taken
  exact (goAgainst_keeps_trail (I := fun t => calls t.tally = calls s.trail.tally + 1)
    (fun _ _ before => before) (counted.costs _) k v).of_ok count rest

theorem course_counted {recorder : Option (Recorder α)}
    {first : Stage α (Run α (SubgradientState α))} {n : Nat}
    {stages : Nat → Stage α (Run α (SubgradientState α))}
    (course : Solver.Course (solver problem) recorder first n stages) {k : Nat} (inside : k ≤ n) :
    calls (stages k).trail.tally = calls first.trail.tally + k ∧
      ∀ stops t, (solver problem).shouldStop k (stages k) = .ok stops t →
        calls t.trail.tally = calls first.trail.tally + k := by
  refine course.counted ?_ (fun count => setUp_keeps_trail (counted.costs count))
    (fun k s t done => step_counted counted done) inside
  rintro count x _ ⟨rfl⟩
  exact counted.costs count

end Counting

end Subgradient

end ManifoldOpt
