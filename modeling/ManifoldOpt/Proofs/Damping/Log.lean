import ManifoldOpt.Proofs.Damping.Rounds
import ManifoldOpt.Proofs.Log

set_option autoImplicit false

namespace ManifoldOpt

open Attempt
open Stage (Logged Silent)

namespace DampingSearch

variable {α S : Type} [Scalar α]

section Stages

variable (search : DampingSearch α S) (d : Damping α) (norm : α)

def trialStage (factor : α) (s : Stage α (Run α S)) : List (Stage α (Run α S)) :=
  match search.manifold.retract search.point (search.direction.scale factor) search.retraction with
  | .ok q => [search.tryAt factor q s]
  | .error _ => []

def trialStages : Nat → Round α S → List (Stage α (Run α S))
  | 0, _ => []
  | allowance + 1, r =>
    if d.accepted < r.theta ∧ isExhausted d r.trials r.factor = false then
      search.trialStage r.factor r.stage ++
        match search.estimate norm r.factor r.stage with
        | .ok theta t => trialStages allowance (r.after d theta t)
        | .error _ _ => []
    else []

def runStages (s : Stage α (Run α S)) : List (Stage α (Run α S)) :=
  match search.manifold.normNumber search.point search.direction with
  | .ok norm =>
    if norm ≤ Tolerance.epsilon then []
    else search.trialStages d norm (allowance d) (search.firstRound s)
  | .error _ => []

end Stages

structure NotesKeep (J : S → Prop) (notes : DampingNotes α S) : Prop where
  alpha : ∀ a x, J x → J (notes.setAlpha a x)
  theta : ∀ t x, J x → J (notes.setTheta t x)
  same : ∀ b x, J x → J (notes.setSame b x)
  trial : ∀ p x, J x → J (notes.setTrial p x)

variable {search : DampingSearch α S} {d : Damping α} {picks : Event α → Bool} {J : S → Prop}
  (skipsDebug : Event.SkipsDebug picks) (noWarning : search.manifold.NoWarning)
  (notesKeep : NotesKeep J search.notes)
  {directed : Stage α (Run α S) → List (Level × Event α)}
  (simplified : ∀ s, J s.state.own →
    Logged picks (fun r => J r.own) (s.trail.log picks ++ directed s) (search.simplified s))

include notesKeep

include skipsDebug in
theorem accept_silent (alpha theta : α) (trials : Nat) :
    Silent picks (fun r => J r.own) (search.accept alpha theta trials) :=
  (Running.modifyOwn_silent fun _ => notesKeep.same true _).bind fun _ =>
    (Stage.silent_emit (skipsDebug _ rfl rfl)).bind fun _ => Stage.silent_pure alpha

theorem giveUp_silent (factor theta : α) (trials : Nat) :
    Silent picks (fun r => J r.own) (search.giveUp factor theta trials) := by
  refine (Running.modifyOwn_silent fun _ => notesKeep.same true _).bind fun _ => ?_
  intro s before
  exact Stage.log_noting (.dampingGivenUp search.iteration trials theta) s

include noWarning simplified

theorem estimate_logged (norm factor : α) {s : Stage α (Run α S)} (before : J s.state.own) :
    Logged picks (fun r => J r.own)
      (s.trail.log picks ++ (search.trialStage factor s).flatMap directed)
      (search.estimate norm factor s) := by
  unfold trialStage
  cases reached : search.manifold.retract search.point (search.direction.scale factor)
      search.retraction with
  | error e =>
    rw [estimate, note_bind, reached]
    exact .of_noWarning (noWarning.retract _ _ _ e reached) (List.append_nil _).symm
  | ok q =>
    rw [estimate_of_reached reached]
    have tried : J (search.tryAt factor q s).state.own :=
      notesKeep.same _ _ (notesKeep.trial _ _ (notesKeep.alpha _ _ before))
    rw [List.flatMap_singleton]
    refine (simplified _ tried).bind fun v => ?_
    refine (Stage.silent_liftM (noWarning.normNumber _ _)).bind fun size => ?_
    exact (Running.modifyOwn_silent fun _ => notesKeep.theta _ _).bind fun _ => Stage.silent_pure _

include skipsDebug

theorem continued_logged (norm : α) (allowance : Nat) {r : Round α S}
    (before : J r.stage.state.own) :
    Logged picks (fun r => J r.own)
      (r.stage.trail.log picks ++ (search.trialStages d norm allowance r).flatMap directed)
      (search.continued d norm allowance r r.stage) := by
  -- Every trial leads to a round from which the search goes on in the same way.
  induction allowance generalizing r with
  | zero => exact .of_noWarning rfl (List.append_nil _).symm
  | succ allowance ih =>
    rw [continued, loop, trialStages]
    by_cases rejected : d.accepted < r.theta
    · rw [if_pos rejected]
      cases exhausted : isExhausted d r.trials r.factor with
      | true =>
        rw [if_pos rfl, if_neg (by simp), List.flatMap_nil, List.append_nil]
        exact giveUp_silent notesKeep _ _ _ r.stage before
      | false =>
        rw [if_neg Bool.false_ne_true, if_pos ⟨rejected, rfl⟩, List.flatMap_append]
        have logged := estimate_logged noWarning notesKeep simplified norm r.factor before
        cases estimated : search.estimate norm r.factor r.stage with
        | ok theta t =>
          rw [estimated] at logged
          rw [bind_of_ok estimated, ← List.append_assoc, ← logged.2]
          exact ih (r := r.after d theta t) logged.1
        | error e t =>
          rw [estimated] at logged
          rw [bind_of_error estimated, List.flatMap_nil, List.append_nil]
          exact logged
    · rw [if_neg rejected, if_neg fun both => rejected both.1, List.flatMap_nil, List.append_nil]
      exact accept_silent skipsDebug notesKeep _ _ _ r.stage before

theorem run_logged {s : Stage α (Run α S)} (before : J s.state.own) :
    Logged picks (fun r => J r.own)
      (s.trail.log picks ++ (search.runStages d s).flatMap directed) (search.run d s) := by
  have begun : J (search.firstRound s).stage.state.own :=
    notesKeep.theta _ _ (notesKeep.alpha _ _ before)
  unfold runStages
  cases measured : search.manifold.normNumber search.point search.direction with
  | error e =>
    rw [run_of_unmeasured measured]
    exact .of_noWarning (noWarning.normNumber _ _ e measured) (List.append_nil _).symm
  | ok norm =>
    by_cases small : norm ≤ Tolerance.epsilon
    · rw [run_of_vanishing measured small]
      refine ⟨notesKeep.same _ _ (notesKeep.theta _ _ begun), ?_⟩
      rw [Stage.log_noting, Event.reports_passed (skipsDebug _ rfl rfl)]
      simp [small]
    · rw [run_of_measured measured small]
      simp only [if_neg small]
      exact continued_logged skipsDebug noWarning notesKeep simplified norm _ begun

omit simplified in
theorem run_silent (silent : Silent picks (fun r => J r.own) search.simplified) (d : Damping α) :
    Silent picks (fun r => J r.own) (search.run d) := by
  intro s before
  have logged : Logged picks (fun r => J r.own)
      (s.trail.log picks ++ (search.runStages d s).flatMap fun _ => []) (search.run d s) := by
    refine run_logged skipsDebug noWarning notesKeep (fun s before => ?_) before
    rw [List.append_nil]
    exact silent s before
  rwa [List.flatMap_eq_nil_iff.mpr fun _ _ => rfl, List.append_nil] at logged

end DampingSearch

end ManifoldOpt
