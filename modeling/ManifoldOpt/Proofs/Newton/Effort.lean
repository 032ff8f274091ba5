import ManifoldOpt.Proofs.Damping.Failure
import ManifoldOpt.Proofs.Newton.Agreement
import ManifoldOpt.Proofs.Solver.Effort
import ManifoldOpt.Proofs.Stopping.Budget
import ManifoldOpt.Proofs.Stopping.Composition

set_option autoImplicit false

namespace ManifoldOpt

open Attempt

namespace DampingSearch

variable {α S : Type} [Scalar α] {search : DampingSearch α S} {d : Damping α} {most : Nat}

structure Unread (meter : Meter S) (notes : DampingNotes α S) : Prop where
  alpha : ∀ a, meter.Bounds 0 (note (notes.setAlpha a) : Running α S Unit)
  theta : ∀ t, meter.Bounds 0 (note (notes.setTheta t) : Running α S Unit)
  same : ∀ b, meter.Bounds 0 (note (notes.setSame b) : Running α S Unit)
  trial : ∀ p, meter.Bounds 0 (note (notes.setTrial p) : Running α S Unit)

theorem loop_of_allowed (count : d.trials.int? = some most) (norm : α) {allowance trials : Nat}
    (inside : trials ≤ most) (enough : most < allowance + trials) (more : Nat)
    (alpha theta factor : α) :
    search.loop d norm (allowance + more) trials alpha theta factor =
      search.loop d norm allowance trials alpha theta factor := by
  induction allowance generalizing trials alpha theta factor with
  | zero => omega
  | succ allowance ih =>
    rw [Nat.add_right_comm, loop, loop]
    by_cases rejected : d.accepted < theta
    · rw [if_pos rejected, if_pos rejected]
      by_cases exhausted : isExhausted d trials factor = true
      · rw [if_pos exhausted, if_pos exhausted]
      · rw [if_neg exhausted, if_neg exhausted]
        have left := Int.ofNat_lt.mp (lt_of_not_exhausted count exhausted)
        exact bind_congr fun theta' => ih left (by omega) _ _ _
    · rw [if_neg rejected, if_neg rejected]

variable {meter : Meter S} (unread : Unread meter search.notes)
  (simplified : meter.Bounds 1 search.simplified)

include unread

theorem giveUp_free (factor theta : α) (trials : Nat) :
    meter.Bounds 0 (search.giveUp factor theta trials) :=
  (unread.same true).free_bind fun _ => (Meter.Bounds.emit _).free_bind fun _ => .throw _

theorem accept_free (alpha theta : α) (trials : Nat) :
    meter.Bounds 0 (search.accept alpha theta trials) :=
  (unread.same true).free_bind fun _ => (Meter.Bounds.emit _).free_bind fun _ => .pure _

include simplified

theorem estimate_bounds (norm factor : α) : meter.Bounds 1 (search.estimate norm factor) := by
  refine (unread.alpha factor).free_bind fun _ => (Meter.Bounds.liftM _).free_bind fun trial => ?_
  refine (unread.trial trial).free_bind fun _ => (unread.same false).free_bind fun _ => ?_
  refine (simplified.bind (b := 0) fun v => ?_).mono (Nat.le_refl _)
  refine (Meter.Bounds.liftM _).free_bind fun size => ?_
  exact (unread.theta (size / norm)).free_bind fun _ => .pure _

theorem loop_bounds (count : d.trials.int? = some most) (norm : α) (allowance trials : Nat)
    (alpha theta factor : α) :
    meter.Bounds (most - trials) (search.loop d norm allowance trials alpha theta factor) := by
  -- Each round makes one of the trials that are left.
  induction allowance generalizing trials alpha theta factor with
  | zero => exact (Meter.Bounds.throw _).mono (Nat.zero_le _)
  | succ allowance ih =>
    refine .ite (fun _ => .ite (fun _ => ?_) fun going => ?_) fun _ => ?_
    · exact (giveUp_free unread _ _ _).mono (Nat.zero_le _)
    · have left := Int.ofNat_lt.mp (lt_of_not_exhausted count going)
      refine ((estimate_bounds unread simplified norm factor).bind fun theta' =>
        ih (trials + 1) factor theta' _).mono ?_
      omega
    · exact (accept_free unread _ _ _).mono (Nat.zero_le _)

theorem run_bounds (count : d.trials.int? = some most) : meter.Bounds most (search.run d) := by
  refine (unread.alpha 1).free_bind fun _ => (unread.theta _).free_bind fun _ => ?_
  refine (Meter.Bounds.liftM _).free_bind fun norm => .ite (fun _ => ?_) fun _ => ?_
  · refine (unread.theta 0).free_bind fun _ => (unread.same true).free_bind fun _ => ?_
    exact ((Meter.Bounds.emit _).free_bind fun _ => .pure _).mono (Nat.zero_le _)
  · exact loop_bounds unread simplified count norm _ 0 _ _ _

end DampingSearch

namespace Newton

variable {α : Type} [Scalar α] {problem : RootProblem α} {d : Damping α} {most : Nat}
  {meter : Meter (Subsolver α)}

def readSubsolver (meter : Meter (Subsolver α)) : Meter (NewtonState α) where
  admits s := meter.admits s.subsolver
  reading tally s := meter.reading tally s.subsolver

def readDamped (d : Damping α) (meter : Meter (Subsolver α)) : Meter (NewtonState α) where
  admits s := s.stepsize = .damped d ∧ meter.admits s.subsolver
  reading tally s := meter.reading tally s.subsolver

theorem notes_unread :
    DampingSearch.Unread (readDamped d meter) (NewtonState.notes (α := α)) where
  alpha _ _ admitted := ⟨admitted, Nat.le_refl _⟩
  theta _ _ admitted := ⟨admitted, Nat.le_refl _⟩
  same _ _ admitted := ⟨admitted, Nat.le_refl _⟩
  trial _ _ admitted := ⟨admitted, Nat.le_refl _⟩

variable (direction : ∀ k, (readSubsolver meter).Bounds 1 (computeDirection problem k))

include direction

theorem computeDirection_bounds (k : Int) :
    (readDamped d meter).Bounds 1 (computeDirection problem k) := by
  intro s admitted
  have keeps : Keeps (fun t => SameButSubsolver s.state t.state) (computeDirection problem k) :=
    computeDirection_keeps s.state k
  obtain ⟨subsolver, same⟩ := keeps.left ⟨s.state.own.subsolver, rfl⟩
  obtain ⟨after, reads⟩ := direction k s admitted.2
  refine ⟨⟨?_, after⟩, reads⟩
  rw [same]
  exact admitted.1

variable (count : d.trials.int? = some most)

include count

theorem step_bounds (k : Int) : (readDamped d meter).Bounds (1 + most) (step problem k) := by
  have directions := computeDirection_bounds (d := d) direction k
  have length : (readDamped d meter).Bounds most (stepLength problem k) := by
    refine .getOwn_bind fun own damped => ?_
    rw [damped.1]
    exact DampingSearch.run_bounds notes_unread directions count
  refine Meter.Bounds.free_bind (fun _ admitted => ⟨admitted, Nat.le_refl _⟩) fun _ => ?_
  refine directions.bind fun v => ?_
  refine Meter.Bounds.free_bind (fun _ admitted => ⟨admitted, Nat.le_refl _⟩) fun _ => ?_
  refine (length.bind (b := 0) fun size => ?_).mono (Nat.le_refl _)
  refine (Meter.Bounds.setStepsize _).free_bind fun _ => .getOwn_bind fun own _ => ?_
  refine (Meter.Bounds.emit _).free_bind fun _ => (Meter.Bounds.liftM _).free_bind fun p => ?_
  exact fun _ admitted => ⟨admitted, Nat.le_refl _⟩

omit direction count

/-- A run with a budget of `N` iterations begins at most `N` steps, however often its rule may be
asked, and counts those that it has completed. A damped Newton run that allows `most` trials a step
computes at most `N * (1 + most)` directions, as every meter shows that rises by at most one with
each. -/
theorem budget_bounds_work {N allowance : Nat} (enough : N < allowance)
    (recorder : Option (Recorder α)) :
    (∀ {S : Type} {solver : Solver α S} {first : Stage α (Run α S)}, solver.Lawful →
      solver.LeavesDriver → first.state.stop.root.BoundedBy N →
      solver.solve allowance recorder first = solver.solve (N + 1) recorder first ∧
      ∃ begun completed recorded, Solver.Ends solver allowance recorder first begun completed recorded
          (solver.solve allowance recorder first) ∧
        begun ≤ N ∧
        (∀ s, solver.setUp ⟨first.trail, first.state.attach recorder⟩ = .ok () s →
          (left (solver.solve allowance recorder first)).state.iteration = completed) ∧
        ∀ cell limit last, first.state.stop.root = .afterIteration cell limit →
          limit.int? = some N → solver.solve allowance recorder first = .ok () last →
            begun = N ∧ completed = N) ∧
    ∀ {problem : RootProblem α} {cost : Option (Tensor α → Attempt α (Trail α) α)}
      {first : Stage α (Run α (NewtonState α))} {d : Damping α} {most : Nat}
      {meter : Meter (Subsolver α)}, first.state.stop.root.BoundedBy N →
      first.state.own.stepsize = .damped d → d.trials.int? = some most →
      (solver problem cost).Uncounted →
      (∀ k, (readSubsolver meter).Bounds 1 (computeDirection problem k)) →
      meter.admits first.state.own.subsolver →
      (readSubsolver meter).read (left ((solver problem cost).solve allowance recorder first)) ≤
          (readSubsolver meter).read first + N * (1 + most) ∧
        ∀ (search : DampingSearch α (NewtonState α)) norm more alpha theta factor,
          search.loop d norm (DampingSearch.allowance d + more) 0 alpha theta factor =
            search.loop d norm (DampingSearch.allowance d) 0 alpha theta factor := by
  constructor
  · intro S solver first lawful leaves bounded
    refine ⟨Solver.solve_of_allowed lawful bounded enough, ?_⟩
    obtain ⟨begun, completed, recorded, ends⟩ := Solver.solve_ends solver recorder first allowance
    refine ⟨begun, completed, recorded, ends, ends.begun_le_budget lawful bounded,
      fun s set => ends.iteration_eq leaves set, ?_⟩
    intro cell limit last root count ended
    exact ends.eq_budget lawful bounded root count ended
  · intro problem cost first d most meter bounded damped count uncounted direction admitted
    constructor
    · obtain ⟨begun, completed, recorded, ends⟩ :=
        Solver.solve_ends (solver problem cost) recorder first allowance
      have le := ends.begun_le_budget (solver_lawful problem cost) bounded
      have setUp : (readDamped d meter).Bounds 0 (solver problem cost).setUp := fun _ before =>
        ⟨before, Nat.le_refl _⟩
      have used := ends.bounds uncounted setUp (step_bounds direction count) ⟨damped, admitted⟩
      exact Nat.le_trans used (Nat.add_le_add_left (Nat.mul_le_mul_right _ le) _)
    · intro search norm more alpha theta factor
      have rounds : DampingSearch.allowance d = most + 1 := by
        unfold DampingSearch.allowance
        rw [count]
        rfl
      rw [rounds]
      exact DampingSearch.loop_of_allowed count norm (Nat.zero_le most) (by omega) more _ _ _

def halfway : DirectionFunction Float where
  name := "halfway"
  description := .string "halfway"
  allocating _ frame _ := do
    let _ ← Trail.count 0
    return some (frame.evaluationPoint.scale (-0.5))
  inPlace _ _ _ _ := throw .argumentCount

def halfwayCalls : Meter (Subsolver Float) where
  admits subsolver := subsolver = .allocating halfway
  reading tally _ := tally.getD 0 0

theorem halfwayCalls_bounds (problem : RootProblem Float) (k : Int) :
    (readSubsolver halfwayCalls).Bounds 1 (computeDirection problem k) := by
  intro s admitted
  have given : s.state.own.subsolver = .allocating halfway := admitted
  have computed : ∃ v, computeDirection problem k s =
      .ok v { s with trail := left (Trail.count 0 s.trail) } := by
    unfold computeDirection
    rw [Running.getOwn_bind, given]
    exact ⟨_, rfl⟩
  obtain ⟨v, computed⟩ := computed
  rw [computed]
  exact ⟨given, Nat.le_of_eq (Trail.count_tally 0 s.trail)⟩

def fromOne (rule : StoppingRule Float) : Stage Float (Run Float (NewtonState Float)) where
  trail := {}
  state := {
    stop := rule
    own := .start (euclidean [1]) (.tangent (euclidean [1])) (.vector [1]) (.allocating halfway) none
      none .none .none }

def smallOrTwo : StoppingRule Float :=
  ⟨.any 2 [.changeLess 0 (.real 0.125), .afterIteration 1 (.int 2)], [{}, {}, {}]⟩

open Subgradient (parabola fromPoint) in
theorem budget_bounds_work_halfway :
    smallOrTwo.root.BoundedBy 2 ∧
    (∃ begun completed recorded,
      Solver.Ends (Subgradient.solver parabola) 9 none (fromPoint 2 0.25 smallOrTwo) begun completed
        recorded ((Subgradient.solver parabola).solve 9 none (fromPoint 2 0.25 smallOrTwo)) ∧
      begun ≤ 2 ∧
      (left ((Subgradient.solver parabola).solve 9 none
        (fromPoint 2 0.25 smallOrTwo))).state.iteration = completed) ∧
    (readSubsolver halfwayCalls).read
      (left ((solver arctanOnLine none).solve 9 none (fromOne smallOrTwo))) ≤ 2 * (1 + 50) := by
  have bounded : smallOrTwo.root.BoundedBy 2 :=
    .any (List.mem_cons_of_mem _ (List.mem_cons_self)) (.afterIteration (by decide))
  obtain ⟨steps, directions⟩ :=
    budget_bounds_work (by decide : 2 < 9) (none : Option (Recorder Float))
  have ends := (@steps _ _ (fromPoint 2 0.25 smallOrTwo) (Subgradient.solver_lawful parabola)
    (Subgradient.solver_leavesDriver parabola) bounded).2
  have count : (Stepsize.defaultDamping : Damping Float).trials.int? = some ((50 : Nat) : Int) := rfl
  have uncounted : (solver arctanOnLine none).Uncounted := by
    intro x cost given
    cases given
  have used := (@directions arctanOnLine none (fromOne smallOrTwo) Stepsize.defaultDamping 50
    halfwayCalls bounded rfl count uncounted (halfwayCalls_bounds arctanOnLine) rfl).1
  have none_yet : (readSubsolver halfwayCalls).read (fromOne smallOrTwo) = 0 := rfl
  rw [none_yet, Nat.zero_add] at used
  obtain ⟨begun, completed, recorded, ends, le, counted, -⟩ := ends
  exact ⟨bounded, ⟨begun, completed, recorded, ends, le, counted _ rfl⟩, used⟩

example : (readSubsolver halfwayCalls).read
    (left ((solver arctanOnLine none).solve 9 none (fromOne smallOrTwo))) = 4 := by
  decide +kernel

end Newton

end ManifoldOpt
