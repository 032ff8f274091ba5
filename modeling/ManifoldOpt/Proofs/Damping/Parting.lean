import ManifoldOpt.Proofs.Damping.Rounds
import ManifoldOpt.Proofs.Parting

set_option autoImplicit false

namespace ManifoldOpt

namespace DampingSearch

open Attempt

variable {α S : Type} [Scalar α] {R : Stage α (Run α S) → Stage α (Run α S) → Prop}
  {E : Stage α (Run α S) → Stage α (Run α S) → Prop} {e : Fault α}

structure Round.Alike (R : Stage α (Run α S) → Stage α (Run α S) → Prop) (r r' : Round α S) :
    Prop where
  trials : r.trials = r'.trials
  alpha : r.alpha = r'.alpha
  theta : r.theta = r'.theta
  factor : r.factor = r'.factor
  stage : R r.stage r'.stage

def directedBy (search : DampingSearch α S) (other : Running α S (Tensor α)) : DampingSearch α S :=
  { search with simplified := other }

/-- From rounds `r` and `r'`, the same trials lead to rounds `q` and `q'`, after which the direction
at the next trial point breaks off with `e` for the first search. -/
structure PartsAfter (search : DampingSearch α S) (other : Running α S (Tensor α)) (d : Damping α)
    (norm : α) (R E : Stage α (Run α S) → Stage α (Run α S) → Prop) (e : Fault α)
    (r r' q q' : Round α S) (u : Stage α (Run α S)) : Prop where
  trials : search.Trials d norm r q
  trials' : (search.directedBy other).Trials d norm r' q'
  alike : q.Alike R q'
  rejected : d.accepted < q.theta
  allowed : isExhausted d q.trials q.factor = false
  broken : ∃ p, search.manifold.retract search.point (search.direction.scale q.factor)
      search.retraction = .ok p ∧
    search.simplified (search.tryAt q.factor p q.stage) = .error e u ∧
    E u (left (other (search.tryAt q.factor p q'.stage)))

variable {search : DampingSearch α S} {other : Running α S (Tensor α)} {d : Damping α}

omit [Scalar α] in
theorem note_related {f : S → S} (couples : Couples R Eq (note f) (note f))
    {s t : Stage α (Run α S)} (before : R s t) :
    R { s with state := { s.state with own := f s.state.own } }
      { t with state := { t.state with own := f t.state.own } } := by
  obtain ⟨t', noted, after⟩ := couples.ok_left before rfl
  cases noted
  exact after

section Searches

variable (notes : search.notes.Respect R)
  (simplified : CouplesUnless E e R Eq search.simplified other)

include notes in
theorem tryAt_related {s t : Stage α (Run α S)} (before : R s t) (factor : α) (p : Tensor α) :
    R (search.tryAt factor p s) (search.tryAt factor p t) :=
  note_related (notes.same false) (note_related (notes.trial p)
    (note_related (notes.alpha factor) before))

include notes in
theorem firstRound_alike {s t : Stage α (Run α S)} (before : R s t) :
    (search.firstRound s).Alike R ((search.directedBy other).firstRound t) :=
  ⟨rfl, rfl, rfl, rfl, note_related (notes.theta _) (note_related (notes.alpha 1) before)⟩

include notes simplified

theorem estimate_parts {s t : Stage α (Run α S)} (before : R s t) (norm factor : α) :
    Agree R Eq (search.estimate norm factor s) ((search.directedBy other).estimate norm factor t) ∨
      ∃ p u, search.manifold.retract search.point (search.direction.scale factor)
          search.retraction = .ok p ∧
        search.simplified (search.tryAt factor p s) = .error e u ∧
        E u (left (other (search.tryAt factor p t))) := by
  cases reached : search.manifold.retract search.point (search.direction.scale factor)
      search.retraction with
  | error fault =>
    have failed : search.estimate norm factor s = _ := estimate_breaks_iff.mpr (.unreached reached)
    have failed' : (search.directedBy other).estimate norm factor t = _ :=
      estimate_breaks_iff.mpr (.unreached reached)
    rw [failed, failed']
    exact .inl (.error (note_related (notes.alpha factor) before))
  | ok p =>
    have result := simplified _ _ (tryAt_related notes before factor p)
    have reached' : (search.directedBy other).manifold.retract (search.directedBy other).point
        ((search.directedBy other).direction.scale factor) (search.directedBy other).retraction =
        .ok p := reached
    rw [estimate_of_reached reached, estimate_of_reached reached']
    generalize given : search.simplified (search.tryAt factor p s) = x,
      given' : other (search.tryAt factor p t) = y at result
    have given'' : (search.directedBy other).simplified ((search.directedBy other).tryAt factor p t) =
        y := given'
    cases result with
    | broken apart => exact .inr ⟨p, _, rfl, given, by rw [given']; exact apart⟩
    | agree agree =>
      refine .inl ?_
      cases agree with
      | error after =>
        rw [bind_of_error given, bind_of_error given'']
        exact .error after
      | ok related after =>
        subst related
        rw [bind_of_ok given, bind_of_ok given'']
        refine Couples.lift_bind (fun size _ => ?_) _ _ after
        exact (notes.theta (size / norm)).bind_eq fun _ => couples_pure rfl

theorem continued_parts (norm : α) (allowance : Nat) {r r' : Round α S} (alike : r.Alike R r') :
    Agree R Eq (search.continued d norm allowance r r.stage)
        ((search.directedBy other).continued d norm allowance r' r'.stage) ∨
      ∃ q q' u, search.PartsAfter other d norm R E e r r' q q' u ∧
        search.continued d norm allowance r r.stage = .error e u := by
  induction allowance generalizing r r' with
  | zero => exact .inl (.error alike.stage)
  | succ allowance ih =>
    obtain ⟨trials, alpha, theta, factor, stage⟩ := r'
    obtain ⟨rfl, rfl, rfl, rfl, before⟩ := alike
    have whole : Round.Alike R r ⟨r.trials, r.alpha, r.theta, r.factor, stage⟩ :=
      ⟨rfl, rfl, rfl, rfl, before⟩
    rw [continued, continued, loop, loop]
    by_cases rejected : d.accepted < r.theta
    · rw [if_pos rejected, if_pos rejected]
      cases exhausted : isExhausted d r.trials r.factor with
      | true =>
        refine .inl ?_
        exact (notes.same true).bind_eq
          (fun _ => (notes.emit _).bind_eq fun _ => couples_throw _) _ _ before
      | false =>
        rw [if_neg Bool.false_ne_true, if_neg Bool.false_ne_true]
        rcases estimate_parts notes simplified before norm r.factor with agree | broken
        · generalize made : search.estimate norm r.factor r.stage = x,
            made' : (search.directedBy other).estimate norm r.factor stage = y at agree
          cases agree with
          | error after =>
            rw [bind_of_error made, bind_of_error made']
            exact .inl (.error after)
          | @ok theta _ t t' related after =>
            subst related
            rw [bind_of_ok made, bind_of_ok made']
            -- The trial leads both searches to rounds that are alike again.
            have next : (r.after d theta t).Alike R
                (Round.after d ⟨r.trials, r.alpha, r.theta, r.factor, stage⟩ theta t') :=
              ⟨rfl, rfl, rfl, rfl, after⟩
            refine (ih next).imp_right ?_
            rintro ⟨q, q', u, parted, failed⟩
            refine ⟨q, q', u, { parted with
              trials := .head ?_ parted.trials
              trials' := .head ?_ parted.trials' }, failed⟩
            · exact ⟨rejected, exhausted, theta, t, made, rfl⟩
            · exact ⟨rejected, exhausted, theta, t', made', rfl⟩
        · obtain ⟨p, u, reached, failed, apart⟩ := broken
          have estimated : search.estimate norm r.factor r.stage = _ :=
            estimate_breaks_iff.mpr (.unsolved reached failed)
          rw [bind_of_error estimated]
          exact .inr ⟨r, _, u, ⟨.refl, .refl, whole, rejected, exhausted, p, reached, failed, apart⟩,
            rfl⟩
    · rw [if_neg rejected, if_neg rejected]
      refine .inl ?_
      exact (notes.same true).bind_eq
        (fun _ => (notes.emit _).bind_eq fun _ => couples_pure rfl) _ _ before

theorem run_parts (d : Damping α) {s t : Stage α (Run α S)} (before : R s t) :
    Agree R Eq (search.run d s) ((search.directedBy other).run d t) ∨
      ∃ norm q q' u, search.manifold.normNumber search.point search.direction = .ok norm ∧
        ¬ norm ≤ Tolerance.epsilon ∧
        search.PartsAfter other d norm R E e (search.firstRound s)
          ((search.directedBy other).firstRound t) q q' u ∧
        search.run d s = .error e u := by
  have alike : (search.firstRound s).Alike R ((search.directedBy other).firstRound t) :=
    firstRound_alike notes before
  cases measured : search.manifold.normNumber search.point search.direction with
  | error fault =>
    have measured' : (search.directedBy other).manifold.normNumber (search.directedBy other).point
        (search.directedBy other).direction = .error fault := measured
    rw [run_of_unmeasured measured, run_of_unmeasured measured']
    exact .inl (.error alike.stage)
  | ok norm =>
    by_cases small : norm ≤ Tolerance.epsilon
    · have silent : Couples R Eq (search.run d) ((search.directedBy other).run d) := by
        unfold DampingSearch.run directedBy
        rw [measured, liftM_ok_bind, liftM_ok_bind, if_pos small, if_pos small]
        refine (notes.alpha 1).bind_eq fun _ => (notes.theta _).bind_eq fun _ => ?_
        refine (notes.theta 0).bind_eq fun _ => (notes.same true).bind_eq fun _ => ?_
        exact (notes.emit _).bind_eq fun _ => couples_pure rfl
      exact .inl (silent s t before)
    · have measured' : (search.directedBy other).manifold.normNumber
          (search.directedBy other).point (search.directedBy other).direction = .ok norm := measured
      rw [run_of_measured measured small, run_of_measured measured' small]
      refine (continued_parts notes simplified norm (allowance d) alike).imp_right ?_
      rintro ⟨q, q', u, parted, failed⟩
      exact ⟨norm, q, q', u, rfl, small, parted, failed⟩

end Searches

end DampingSearch

end ManifoldOpt
