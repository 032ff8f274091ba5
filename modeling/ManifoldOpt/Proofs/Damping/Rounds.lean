import Mathlib.Logic.Relation
import ManifoldOpt.Proofs.Damping.Failure
import ManifoldOpt.Proofs.Stopping.Budget

/-!
The rounds of a damping search. Between two trials a search knows how many it has made, what the
last one found and which factor comes next. A round leads to the next one by a trial, and the search
ends in a round that is reached from the first one: it accepts, gives up, or a trial fails.
-/

set_option autoImplicit false

namespace ManifoldOpt

namespace DampingSearch

open Attempt

variable {α S : Type} [Scalar α]

/-- What a search knows after some trials: how many there were, the factor and the contraction of
the last one, and the factor proposed for the next one. -/
structure Round (α S : Type) where
  trials : Nat
  alpha : α
  theta : α
  factor : α
  stage : Stage α (Run α S)

def Round.after (d : Damping α) (r : Round α S) (theta : α) (stage : Stage α (Run α S)) :
    Round α S where
  trials := r.trials + 1
  alpha := r.factor
  theta := theta
  factor := if 0 < theta then nextFactor d r.factor theta else r.factor
  stage := stage

variable (search : DampingSearch α S) (d : Damping α) (norm : α)

def firstRound (s : Stage α (Run α S)) : Round α S where
  trials := 0
  alpha := 1
  theta := Default.initialContraction
  factor := 1
  stage := { s with state := { s.state with
    own := search.notes.setTheta Default.initialContraction (search.notes.setAlpha 1 s.state.own) } }

structure Trial (r r' : Round α S) : Prop where
  rejected : d.accepted < r.theta
  allowed : isExhausted d r.trials r.factor = false
  made : ∃ theta t, search.estimate norm r.factor r.stage = .ok theta t ∧ r' = r.after d theta t

def Trials : Round α S → Round α S → Prop := Relation.ReflTransGen (search.Trial d norm)

/-- How a search that is left `last` rounds in all ends after round `r`, unless it makes another
trial. -/
inductive Concludes (last : Nat) (r : Round α S) :
    EStateM.Result (Fault α) (Stage α (Run α S)) α → Prop
  | accepted (met : ¬ d.accepted < r.theta) :
    Concludes last r (search.accept r.alpha r.theta r.trials r.stage)
  | givenUp (rejected : d.accepted < r.theta) (exhausted : isExhausted d r.trials r.factor = true) :
    Concludes last r (search.giveUp r.factor r.theta r.trials r.stage)
  | broken {e : Fault α} {t : Stage α (Run α S)} (rejected : d.accepted < r.theta)
    (allowed : isExhausted d r.trials r.factor = false)
    (failed : search.estimate norm r.factor r.stage = .error e t) : Concludes last r (.error e t)
  | unfinished (spent : r.trials = last) : Concludes last r (.error .unfinished r.stage)

def continued (allowance : Nat) (r : Round α S) : Running α S α :=
  search.loop d norm allowance r.trials r.alpha r.theta r.factor

variable {search d norm} {r r' : Round α S}

theorem Trial.continued_eq (trial : search.Trial d norm r r') (allowance : Nat) :
    search.continued d norm (allowance + 1) r r.stage =
      search.continued d norm allowance r' r'.stage := by
  obtain ⟨theta, t, estimated, rfl⟩ := trial.made
  have going : ¬ isExhausted d r.trials r.factor = true := by
    rw [trial.allowed]
    exact Bool.false_ne_true
  rw [continued, loop, if_pos trial.rejected, if_neg going]
  exact bind_of_ok estimated

theorem Trials.continued_eq (trials : search.Trials d norm r r') :
    ∃ made, r'.trials = r.trials + made ∧ ∀ allowance,
      search.continued d norm (made + allowance) r r.stage =
        search.continued d norm allowance r' r'.stage := by
  induction trials with
  | refl => exact ⟨0, rfl, fun allowance => by rw [Nat.zero_add]⟩
  | tail _ trial ih =>
    obtain ⟨made, counted, same⟩ := ih
    refine ⟨made + 1, ?_, fun allowance => ?_⟩
    · obtain ⟨theta, t, -, rfl⟩ := trial.made
      rw [Round.after, counted, Nat.add_assoc]
    · rw [Nat.add_right_comm, Nat.add_assoc, same, trial.continued_eq]

theorem continued_concludes (allowance : Nat) (r : Round α S) :
    ∃ r', search.Trials d norm r r' ∧
      search.Concludes d norm (r.trials + allowance) r'
        (search.continued d norm allowance r r.stage) := by
  induction allowance generalizing r with
  | zero => exact ⟨r, .refl, .unfinished rfl⟩
  | succ allowance ih =>
    by_cases rejected : d.accepted < r.theta
    · cases exhausted : isExhausted d r.trials r.factor with
      | true =>
        refine ⟨r, .refl, ?_⟩
        rw [continued, loop, if_pos rejected, if_pos exhausted]
        exact .givenUp rejected exhausted
      | false =>
        cases estimated : search.estimate norm r.factor r.stage with
        | ok theta t =>
          have trial : search.Trial d norm r (r.after d theta t) :=
            ⟨rejected, exhausted, theta, t, estimated, rfl⟩
          obtain ⟨r', trials, concluded⟩ := ih (r.after d theta t)
          have left : (r.after d theta t).trials + allowance = r.trials + (allowance + 1) := by
            rw [Round.after, Nat.add_right_comm, Nat.add_assoc]
          rw [trial.continued_eq, ← left]
          exact ⟨r', .head trial trials, concluded⟩
        | error e t =>
          refine ⟨r, .refl, ?_⟩
          rw [continued, loop, if_pos rejected, if_neg (by rw [exhausted]; exact Bool.false_ne_true),
            bind_of_error estimated]
          exact .broken rejected exhausted estimated
    · refine ⟨r, .refl, ?_⟩
      rw [continued, loop, if_neg rejected]
      exact .accepted rejected

theorem Trials.le_count {count : Int} (whole : d.trials.int? = some count)
    (trials : search.Trials d norm r r') (start : r.trials = 0) : r'.trials ≤ count.toNat := by
  induction trials with
  | refl => rw [start]; exact Nat.zero_le _
  | @tail r₁ _ _ trial _ =>
    obtain ⟨theta, t, -, rfl⟩ := trial.made
    obtain ⟨below, -⟩ := Bool.or_eq_false_iff.mp trial.allowed
    rw [Number.le_of_whole whole] at below
    have room : ¬ count ≤ (r₁.trials : Int) := of_decide_eq_false below
    change r₁.trials + 1 ≤ count.toNat
    omega

omit [Scalar α] in
theorem allowance_pos (d : Damping α) : 0 < allowance d := by
  unfold allowance
  split
  · exact Nat.succ_pos _
  · exact Nat.pow_pos (by decide)

section Run

variable {s : Stage α (Run α S)}

theorem run_of_measured
    (measured : search.manifold.normNumber search.point search.direction = .ok norm)
    (large : ¬ norm ≤ Tolerance.epsilon) :
    search.run d s = search.continued d norm (allowance d) (search.firstRound s)
      (search.firstRound s).stage := by
  rw [run, note_bind, note_bind, measured, liftM_ok_bind, if_neg large]
  rfl

theorem run_of_vanishing
    (measured : search.manifold.normNumber search.point search.direction = .ok norm)
    (small : norm ≤ Tolerance.epsilon) :
    search.run d s = .ok 1 (Stage.noting (.directionVanishes search.iteration)
      { s with state := { s.state with
        own := search.notes.setSame true (search.notes.setTheta 0 (search.notes.setTheta
          Default.initialContraction (search.notes.setAlpha 1 s.state.own))) } }) := by
  rw [run, note_bind, note_bind, measured, liftM_ok_bind, if_pos small]
  rfl

theorem run_of_unmeasured {e : Fault α}
    (failed : search.manifold.normNumber search.point search.direction = .error e) :
    search.run d s = .error e (search.firstRound s).stage := by
  rw [run, note_bind, note_bind, failed]
  rfl

theorem run_of_met
    (measured : search.manifold.normNumber search.point search.direction = .ok norm)
    (large : ¬ norm ≤ Tolerance.epsilon) (trials : search.Trials d norm (search.firstRound s) r)
    (room : r.trials < allowance d) (met : ¬ d.accepted < r.theta) :
    search.run d s = search.accept r.alpha r.theta r.trials r.stage := by
  obtain ⟨made, counted, same⟩ := trials.continued_eq
  obtain ⟨left, enough⟩ : ∃ left, allowance d = made + (left + 1) := by
    have first : (search.firstRound s).trials = 0 := rfl
    exact ⟨allowance d - made - 1, by omega⟩
  rw [run_of_measured measured large, enough, same, continued, loop, if_neg met]

end Run

def tryAt (search : DampingSearch α S) (factor : α) (q : Tensor α) (s : Stage α (Run α S)) :
    Stage α (Run α S) :=
  { s with state := { s.state with
    own := search.notes.setSame false (search.notes.setTrial q
      (search.notes.setAlpha factor s.state.own)) } }

structure Estimates (search : DampingSearch α S) (norm factor theta : α)
    (s t : Stage α (Run α S)) (q v : Tensor α) (u : Stage α (Run α S)) : Prop where
  reached : search.manifold.retract search.point (search.direction.scale factor)
    search.retraction = .ok q
  solved : search.simplified (search.tryAt factor q s) = .ok v u
  compared : ∃ size, search.manifold.normNumber search.point v = .ok size ∧ theta = size / norm
  noted : t = { u with state := { u.state with
    own := search.notes.setTheta theta u.state.own } }

inductive Breaks (search : DampingSearch α S) (factor : α) (s : Stage α (Run α S)) (e : Fault α) :
    Stage α (Run α S) → Prop
  | unreached (failed : search.manifold.retract search.point (search.direction.scale factor)
      search.retraction = .error e) :
    Breaks search factor s e { s with state := { s.state with
      own := search.notes.setAlpha factor s.state.own } }
  | unsolved {q : Tensor α} {t : Stage α (Run α S)}
    (reached : search.manifold.retract search.point (search.direction.scale factor)
      search.retraction = .ok q)
    (failed : search.simplified (search.tryAt factor q s) = .error e t) :
    Breaks search factor s e t
  | incomparable {q v : Tensor α} {t : Stage α (Run α S)}
    (reached : search.manifold.retract search.point (search.direction.scale factor)
      search.retraction = .ok q)
    (solved : search.simplified (search.tryAt factor q s) = .ok v t)
    (failed : search.manifold.normNumber search.point v = .error e) : Breaks search factor s e t

section Estimate

variable {factor theta : α} {s t : Stage α (Run α S)} {e : Fault α}

theorem estimate_of_reached {q : Tensor α}
    (reached : search.manifold.retract search.point (search.direction.scale factor)
      search.retraction = .ok q) :
    search.estimate norm factor s = (do
      let v ← search.simplified
      let size ← search.manifold.normNumber search.point v
      note (search.notes.setTheta (size / norm))
      return size / norm : Running α S α) (search.tryAt factor q s) := by
  rw [estimate, note_bind, reached]
  rfl

theorem estimate_inv (estimated : search.estimate norm factor s = .ok theta t) :
    ∃ q v u, search.Estimates norm factor theta s t q v u := by
  cases reached : search.manifold.retract search.point (search.direction.scale factor)
      search.retraction with
  | error e =>
    rw [estimate, note_bind, reached] at estimated
    cases estimated
  | ok q =>
    rw [estimate_of_reached reached] at estimated
    obtain ⟨v, u, solved, rest⟩ := bind_eq_ok.mp estimated
    obtain ⟨size, compared, rest⟩ := liftM_bind_eq_ok.mp rest
    rw [note_bind] at rest
    cases rest
    exact ⟨q, v, u, reached, solved, ⟨size, compared, rfl⟩, rfl⟩

theorem estimate_breaks_iff :
    search.estimate norm factor s = .error e t ↔ search.Breaks factor s e t := by
  constructor
  · intro failed
    cases reached : search.manifold.retract search.point (search.direction.scale factor)
        search.retraction with
    | error e' =>
      rw [estimate, note_bind, reached] at failed
      cases failed
      exact .unreached reached
    | ok q =>
      rw [estimate_of_reached reached] at failed
      rcases bind_eq_error.mp failed with unsolved | ⟨v, u, solved, failed⟩
      · exact .unsolved reached unsolved
      rcases bind_eq_error.mp failed with failed | ⟨size, _, -, impossible⟩
      · obtain ⟨incomparable, rfl⟩ := liftM_eq_error.mp failed
        exact .incomparable reached solved incomparable
      · cases impossible
  · rintro (unreached | ⟨reached, failed⟩ | ⟨reached, solved, failed⟩)
    · rw [estimate, note_bind, unreached]
      rfl
    · rw [estimate_of_reached reached]
      exact bind_of_error failed
    · rw [estimate_of_reached reached, bind_of_ok solved]
      exact bind_of_error (liftM_eq_error.mpr ⟨failed, rfl⟩)

end Estimate

end DampingSearch

end ManifoldOpt
