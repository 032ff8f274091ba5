import ManifoldOpt.Proofs.Damping.Coupling
import ManifoldOpt.Proofs.Stopping.Budget

set_option autoImplicit false

namespace ManifoldOpt

namespace DampingSearch

open Attempt

variable {α S : Type} [Scalar α] {search : DampingSearch α S} {P : Run α S → Prop} {e : Fault α}

/-- What a search fails of. All trials are made by runs with the property `P`; a direction that cannot
be computed at a trial point cannot for the reason `Cause`. -/
inductive Failure (search : DampingSearch α S) (d : Damping α) (P : Run α S → Prop)
    (Cause : Stage α (Run α S) → Prop) (e : Fault α) : Prop
  | unmeasured (failed : search.manifold.normNumber search.point search.direction = .error e)
  | unreached {factor : α}
    (failed : search.manifold.retract search.point (search.direction.scale factor)
      search.retraction = .error e)
  | unsolved {factor : α} {trial : Tensor α} {s t : Stage α (Run α S)}
    (reached : search.manifold.retract search.point (search.direction.scale factor)
      search.retraction = .ok trial)
    (noted : ∃ own, s.state.own = search.notes.setSame false (search.notes.setTrial trial own))
    (inside : P s.state) (failed : search.simplified s = .error e t) (cause : Cause s)
  | incomparable {v : Tensor α} {s t : Stage α (Run α S)} (inside : P s.state)
    (solved : search.simplified s = .ok v t)
    (failed : search.manifold.normNumber search.point v = .error e)
  | givenUp {factor theta : α} {trials : Nat} (rejected : d.accepted < theta)
    (exhausted : isExhausted d trials factor = true)
    (given : e = .dampingFailed search.iteration factor theta trials)
  | unfinished (uncounted : d.trials.int? = none) (given : e = .unfinished)

theorem lt_of_not_exhausted {d : Damping α} {most : Int} (count : d.trials.int? = some most)
    {trials : Nat} {factor : α} (going : ¬ isExhausted d trials factor = true) : trials < most := by
  by_contra spent
  have reached : d.trials.le (.int trials) = true := by
    rw [Number.le_of_whole count]
    exact decide_eq_true (Int.not_lt.mp spent)
  exact going (by rw [isExhausted, reached, Bool.true_or])

omit [Scalar α] in
theorem note_bind {β : Type} (f : S → S) (g : Unit → Running α S β) (s : Stage α (Run α S)) :
    (note f >>= g) s = g () { s with state := { s.state with own := f s.state.own } } :=
  Running.modifyOwn_bind f g s

omit [Scalar α] in
theorem note_kept {f : S → S}
    (couples : Couples (fun s t : Stage α (Run α S) => s = t ∧ P s.state) Eq (note f) (note f))
    {r : Run α S} (before : P r) : P { r with own := f r.own } :=
  (keeps_iff_couples.mpr couples).of_ok (s := ⟨{}, r⟩) before rfl

variable {Cause : Stage α (Run α S) → Prop}
  (notes : search.notes.Respect fun s t => s = t ∧ P s.state)
  (traced : ∀ s t, search.simplified s = .error e t → Cause s) {d : Damping α}
  {s t : Stage α (Run α S)} (inside : P s.state)

include notes traced inside

theorem estimate_eq_error {norm factor : α} (failed : search.estimate norm factor s = .error e t) :
    search.Failure d P Cause e := by
  rw [estimate, note_bind] at failed
  rcases liftM_bind_eq_error.mp failed with ⟨failed, -⟩ | ⟨trial, reached, failed⟩
  · exact .unreached failed
  rw [note_bind, note_bind] at failed
  have away := note_kept (notes.same false)
    (note_kept (notes.trial trial) (note_kept (notes.alpha factor) inside))
  rcases bind_eq_error.mp failed with failed | ⟨v, u, solved, failed⟩
  · exact .unsolved reached ⟨_, rfl⟩ away failed (traced _ _ failed)
  rcases liftM_bind_eq_error.mp failed with ⟨failed, -⟩ | ⟨size, -, impossible⟩
  · exact .incomparable away solved failed
  · cases impossible

variable (computed : Keeps (fun s => P s.state) search.simplified)

include computed

theorem loop_eq_error {norm : α} {allowance trials : Nat} {alpha theta factor : α}
    (enough : ∀ most, d.trials.int? = some most → trials ≤ most.toNat ∧
      most.toNat < allowance + trials)
    (failed : search.loop d norm allowance trials alpha theta factor s = .error e t) :
    search.Failure d P Cause e := by
  induction allowance generalizing s trials alpha theta factor with
  | zero =>
    cases failed
    -- A whole number of trials is used up before the rounds are.
    refine .unfinished (Option.eq_none_iff_forall_ne_some.mpr fun most count => ?_) rfl
    have := enough most count
    omega
  | succ allowance ih =>
    rw [loop] at failed
    split at failed
    next rejected =>
      split at failed
      next exhausted =>
        cases failed
        exact .givenUp rejected exhausted rfl
      next going =>
        rcases bind_eq_error.mp failed with failed | ⟨theta', u, estimated, failed⟩
        · exact estimate_eq_error notes traced inside failed
        · have keeps := keeps_iff_couples.mpr
            (notes.respected.estimate (keeps_iff_couples.mp computed) norm factor)
          refine ih (keeps.of_ok inside estimated) (fun most count => ?_) failed
          have left := lt_of_not_exhausted count going
          have := enough most count
          omega
    next => cases failed

theorem run_eq_error (failed : search.run d s = .error e t) : search.Failure d P Cause e := by
  rw [run, note_bind, note_bind] at failed
  rcases liftM_bind_eq_error.mp failed with ⟨failed, -⟩ | ⟨norm, -, failed⟩
  · exact .unmeasured failed
  split at failed
  next => cases failed
  next =>
    have inside :=
      note_kept (notes.theta Default.initialContraction) (note_kept (notes.alpha 1) inside)
    refine loop_eq_error notes traced inside computed (fun most count => ?_) failed
    rw [allowance, count]
    exact ⟨Nat.zero_le _, Nat.lt_succ_self _⟩

end DampingSearch

end ManifoldOpt
