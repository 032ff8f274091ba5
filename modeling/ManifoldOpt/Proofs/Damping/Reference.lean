import Mathlib.Tactic.FieldSimp
import Mathlib.Tactic.Linarith
import Mathlib.Tactic.Positivity
import ManifoldOpt.Damping
import ManifoldOpt.Proofs.Stepsize

/-!
The damping search as an iteration. Trial `i` has the factor `a i` and finds the contraction `r i`;
the factors go on from `a 1 = 1` by `a (i + 1) = a i * desired / r i`. The search makes trials until
one is accepted, or until the trials or the factors are used up, whichever comes first.
-/

set_option autoImplicit false

namespace ManifoldOpt

/-- The factors and contractions of trials, counted from one, and the stages after them. -/
structure TrialSequence (S : Type) where
  factor : ℕ → ℝ
  contraction : ℕ → ℝ
  stage : ℕ → Stage ℝ (Run ℝ S)

namespace TrialSequence

variable {S : Type} {d : Damping ℝ} {most : ℕ} {x : TrialSequence S}

/-- The sequence starts with a full step, and every factor is the one that would have led to the
desired contraction. Before any trial the contraction is the initial one. -/
structure Recurrence (x : TrialSequence S) (d : Damping ℝ) : Prop where
  full : x.factor 1 = 1
  initial : x.contraction 0 = Default.initialContraction
  next : ∀ i, x.factor (i + 2) = x.factor (i + 1) * d.desired / x.contraction (i + 1)

def Exhausted (x : TrialSequence S) (d : Damping ℝ) (most i : ℕ) : Prop :=
  i = most ∨ x.factor (i + 1) < d.least

def Reaches (x : TrialSequence S) (d : Damping ℝ) (most i : ℕ) : Prop :=
  ∀ j < i, d.accepted < x.contraction j ∧ ¬ x.Exhausted d most j

theorem Reaches.succ {i : ℕ} (reaches : x.Reaches d most i)
    (rejected : d.accepted < x.contraction i) (room : ¬ x.Exhausted d most i) :
    x.Reaches d most (i + 1) := by
  intro j inside
  by_cases last : j = i
  · subst last
    exact ⟨rejected, room⟩
  · exact reaches j (by omega)

theorem Reaches.shorten {i j : ℕ} (reaches : x.Reaches d most i) (le : j ≤ i) :
    x.Reaches d most j := fun l inside => reaches l (by omega)

theorem Reaches.le_most {i : ℕ} (reaches : x.Reaches d most i) : i ≤ most := by
  by_contra beyond
  exact (reaches most (by omega)).2 (.inl rfl)

theorem Recurrence.factor_lt (recurrence : x.Recurrence d) (valid : d.Valid) {i : ℕ}
    (positive : 0 < x.factor (i + 1)) (rejected : d.accepted < x.contraction (i + 1)) :
    0 < x.factor (i + 2) ∧ x.factor (i + 2) < x.factor (i + 1) * d.desired / d.accepted ∧
      x.factor (i + 2) < x.factor (i + 1) := by
  have desired_pos := valid.desired_pos
  have accepted_pos : 0 < d.accepted := lt_of_lt_of_le desired_pos valid.desired_le
  have contraction_pos : 0 < x.contraction (i + 1) := accepted_pos.trans rejected
  -- The contraction found exceeds the accepted one, by which the quotient gets smaller.
  have drop : x.factor (i + 2) < x.factor (i + 1) * d.desired / d.accepted := by
    rw [recurrence.next]
    exact div_lt_div_of_pos_left (mul_pos positive desired_pos) accepted_pos rejected
  refine ⟨?_, drop, drop.trans_le ?_⟩
  · rw [recurrence.next]
    positivity
  · rw [div_le_iff₀ accepted_pos]
    exact mul_le_mul_of_nonneg_left valid.desired_le positive.le

theorem Recurrence.factor_mem (recurrence : x.Recurrence d) (valid : d.Valid) {i : ℕ}
    (rejected : ∀ j < i, d.accepted < x.contraction (j + 1)) :
    0 < x.factor (i + 1) ∧ x.factor (i + 1) ≤ 1 := by
  induction i with
  | zero => simp [recurrence.full]
  | succ i ih =>
    obtain ⟨positive, le_one⟩ := ih fun j inside => rejected j (by omega)
    obtain ⟨positive', -, smaller⟩ := recurrence.factor_lt valid positive (rejected i (by omega))
    exact ⟨positive', smaller.le.trans le_one⟩

theorem Reaches.factor_mem {i : ℕ} (reaches : x.Reaches d most (i + 1))
    (recurrence : x.Recurrence d) (valid : d.Valid) :
    0 < x.factor (i + 1) ∧ x.factor (i + 1) ≤ 1 :=
  recurrence.factor_mem valid fun j inside => (reaches (j + 1) (by omega)).1

theorem Recurrence.proposed (recurrence : x.Recurrence d) (valid : d.Valid) {i : ℕ}
    (positive : 0 < x.factor (i + 1)) (le_one : x.factor (i + 1) ≤ 1)
    (rejected : d.accepted < x.contraction (i + 1)) :
    (if 0 < x.contraction (i + 1)
      then DampingSearch.nextFactor d (x.factor (i + 1)) (x.contraction (i + 1))
      else x.factor (i + 1)) = x.factor (i + 2) := by
  have contraction_pos : 0 < x.contraction (i + 1) :=
    (lt_of_lt_of_le valid.desired_pos valid.desired_le).trans rejected
  obtain ⟨-, -, smaller⟩ := recurrence.factor_lt valid positive rejected
  -- The search cuts factors off at one, but none of these gets there.
  have below : x.factor (i + 1) * d.desired / x.contraction (i + 1) < 1 := by
    rw [← recurrence.next]
    exact smaller.trans_le le_one
  rw [if_pos contraction_pos, DampingSearch.nextFactor, if_pos below, recurrence.next]

structure Accepts (x : TrialSequence S) (d : Damping ℝ) (most m : ℕ) : Prop where
  counted : 1 ≤ m
  allowed : m ≤ most
  worthwhile : ∀ i, 1 ≤ i → i ≤ m → d.least ≤ x.factor i
  rejected : ∀ i, 1 ≤ i → i < m → d.accepted < x.contraction i
  accepted : x.contraction m ≤ d.accepted

theorem Accepts.of_reaches {m : ℕ} (reaches : x.Reaches d most m) (counted : 1 ≤ m)
    (accepted : x.contraction m ≤ d.accepted) : x.Accepts d most m where
  counted := counted
  allowed := reaches.le_most
  worthwhile i first last := by
    obtain ⟨j, rfl⟩ := Nat.exists_eq_add_of_le' first
    exact not_lt.mp fun small => (reaches j (by omega)).2 (.inr small)
  rejected i _ before := (reaches i before).1
  accepted := accepted

theorem Accepts.unique {m m' : ℕ} (accepts : x.Accepts d most m) (accepts' : x.Accepts d most m') :
    m = m' := by
  rcases lt_trichotomy m m' with less | equal | greater
  · exact absurd accepts.accepted (accepts'.rejected m accepts.counted less).not_ge
  · exact equal
  · exact absurd accepts'.accepted (accepts.rejected m' accepts'.counted greater).not_ge

structure Exhausts (x : TrialSequence S) (d : Damping ℝ) (most t : ℕ) : Prop where
  exhausted : x.Exhausted d most t
  first : ∀ j < t, ¬ x.Exhausted d most j

theorem Accepts.contraction_le {m t : ℕ} (accepts : x.Accepts d most m)
    (exhausts : x.Exhausts d most t) (reaches : x.Reaches d most t) : x.contraction t ≤ d.accepted := by
  -- Giving up later would mean that trial `m` was rejected, earlier that it was not allowed.
  rcases lt_trichotomy m t with less | rfl | greater
  · exact absurd accepts.accepted (reaches m less).1.not_ge
  · exact accepts.accepted
  · cases exhausts.exhausted with
    | inl full =>
      have allowed := accepts.allowed
      omega
    | inr small => exact absurd (accepts.worthwhile (t + 1) (by omega) greater) small.not_ge

end TrialSequence

namespace DampingSearch

open TrialSequence

variable {S : Type} {search : DampingSearch ℝ S} {d : Damping ℝ} {most : ℕ} {norm : ℝ}
  {x : TrialSequence S}

theorem isExhausted_iff (count : d.trials.int? = some (most : ℤ)) {i : ℕ} (le : i ≤ most) :
    isExhausted d i (x.factor (i + 1)) = true ↔ x.Exhausted d most i := by
  have trials : d.trials.le (.int i) = decide (i = most) := by
    unfold Number.le
    rw [count]
    change decide ((most : ℤ) ≤ (i : ℤ)) = _
    exact decide_eq_decide.mpr ⟨fun _ => by omega, fun _ => by omega⟩
  simp [isExhausted, Exhausted, trials]

theorem estimate_eq {a size : ℝ} {q v : Tensor ℝ} {s u : Stage ℝ (Run ℝ S)}
    (moved : search.manifold.retract search.point (search.direction.scale a) search.retraction =
      .ok q)
    (computed : search.simplified { s with state := { s.state with
      own := search.notes.setSame false (search.notes.setTrial q
        (search.notes.setAlpha a s.state.own)) } } = .ok v u)
    (measured : search.manifold.normNumber search.point v = .ok size) :
    search.estimate norm a s = .ok (size / norm) { u with state := { u.state with
      own := search.notes.setTheta (size / norm) u.state.own } } := by
  refine Attempt.bind_eq_ok.mpr ⟨_, _, rfl, ?_⟩
  refine Attempt.liftM_bind_eq_ok.mpr ⟨_, moved, ?_⟩
  refine Attempt.bind_eq_ok.mpr ⟨_, _, rfl, Attempt.bind_eq_ok.mpr ⟨_, _, rfl, ?_⟩⟩
  refine Attempt.bind_eq_ok.mpr ⟨_, _, computed, ?_⟩
  refine Attempt.liftM_bind_eq_ok.mpr ⟨_, measured, rfl⟩

/-- From any count of rejected trials on, the search ends with the first trial that is accepted, or
where no further trial is allowed. -/
theorem loop_eq (valid : d.Valid) (count : d.trials.int? = some (most : ℤ))
    (recurrence : x.Recurrence d) (below : d.accepted < Default.initialContraction)
    (trial : ∀ i, x.Reaches d most (i + 1) →
      search.estimate norm (x.factor (i + 1)) (x.stage i) =
        .ok (x.contraction (i + 1)) (x.stage (i + 1)))
    {allowance i : ℕ} {alpha factor : ℝ} (enough : i + allowance = most + 1)
    (reaches : x.Reaches d most i) (last : 1 ≤ i → alpha = x.factor i)
    (proposed : d.accepted < x.contraction i → factor = x.factor (i + 1)) :
    (∃ m, x.Accepts d most m ∧ x.Reaches d most m ∧
      search.loop d norm allowance i alpha (x.contraction i) factor (x.stage i) =
        search.accept (x.factor m) (x.contraction m) m (x.stage m)) ∨
    ∃ t, x.Exhausts d most t ∧ x.Reaches d most t ∧ d.accepted < x.contraction t ∧
      search.loop d norm allowance i alpha (x.contraction i) factor (x.stage i) =
        search.giveUp (x.factor (t + 1)) (x.contraction t) t (x.stage t) := by
  -- The allowance left and the trials made add up, so that it lasts until the search ends; the
  -- factor proposed next matters only if the last trial was rejected.
  induction allowance generalizing i alpha factor with
  | zero =>
    have le := reaches.le_most
    omega
  | succ allowance ih =>
    by_cases rejected : d.accepted < x.contraction i
    · obtain rfl := proposed rejected
      by_cases exhausted : x.Exhausted d most i
      · right
        refine ⟨i, ⟨exhausted, fun j before => (reaches j before).2⟩, reaches, rejected, ?_⟩
        rw [loop, if_pos rejected, if_pos ((isExhausted_iff count reaches.le_most).mpr exhausted)]
      · have further := reaches.succ rejected exhausted
        obtain ⟨positive, le_one⟩ := further.factor_mem recurrence valid
        have goes_on : isExhausted d i (x.factor (i + 1)) ≠ true :=
          fun stops => exhausted ((isExhausted_iff count reaches.le_most).mp stops)
        have unfolded : search.loop d norm (allowance + 1) i alpha (x.contraction i)
            (x.factor (i + 1)) (x.stage i) =
            search.loop d norm allowance (i + 1) (x.factor (i + 1)) (x.contraction (i + 1))
              (if 0 < x.contraction (i + 1)
                then nextFactor d (x.factor (i + 1)) (x.contraction (i + 1))
                else x.factor (i + 1)) (x.stage (i + 1)) := by
          rw [loop, if_pos rejected, if_neg goes_on]
          change EStateM.bind _ _ _ = _
          rw [EStateM.bind, trial i further]
        rw [unfolded]
        exact ih (by omega) further (fun _ => rfl)
          fun rejected' => recurrence.proposed valid positive le_one rejected'
    · left
      -- Before any trial the contraction is the initial one, which is not accepted.
      have counted : 1 ≤ i := by
        by_contra none
        obtain rfl : i = 0 := by omega
        exact rejected (by rwa [recurrence.initial])
      obtain rfl := last counted
      refine ⟨i, .of_reaches reaches counted (not_lt.mp rejected), reaches, ?_⟩
      rw [loop, if_neg rejected]

end DampingSearch

end ManifoldOpt
