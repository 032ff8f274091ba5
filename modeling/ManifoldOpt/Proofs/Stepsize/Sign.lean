import Mathlib
import ManifoldOpt.Manifold.Euclidean
import ManifoldOpt.Proofs.Scalar.Sign
import ManifoldOpt.Proofs.Stepsize.Decreasing

set_option autoImplicit false

namespace ManifoldOpt

open Outcome Scalar

section Checks

variable {α : Type} [Scalar α] {n : Number α} {x : α}

theorem Number.toScalar_eq_ok (scalar : n.toScalar = .ok x) : n.value = x := by
  cases n with
  | real y => exact Except.ok.inj scalar
  | bool | int =>
    simp only [Number.toScalar] at scalar
    split at scalar
    · exact Except.ok.inj scalar
    · cases scalar

theorem checkedPower_not_negative (powers : PowerSigned α) {base exponent y : α}
    (nonneg : ¬ Negative base) (power : checkedPower base exponent = .ok y) : ¬ Negative y := by
  simp only [checkedPower] at power
  split at power
  · cases power
  split at power
  · cases power
  next defined _ =>
    cases power
    refine powers base exponent nonneg ?_
    rintro ⟨zero, below, finite⟩
    refine defined ?_
    simp [zero, below, finite]

variable [Signed α]

theorem checkedQuotient_not_negative {a b y : α} (top : ¬ Negative a) (bottom : ¬ Negative b)
    (quotient : checkedQuotient a b = .ok y) : ¬ Negative y := by
  unfold checkedQuotient at quotient
  cases zero : isZero b with
  | true =>
    rw [if_pos zero] at quotient
    cases quotient
  | false =>
    rw [zero] at quotient
    cases quotient
    exact Signed.div top bottom zero

variable [Ordered α]

theorem Number.not_negative_of_lt (checked : n.lt (.int 0) = false) : ¬ Negative n.value := by
  cases n with
  | bool b =>
    cases b with
    | false => exact lt_irrefl 0
    | true => exact Signed.one
  | int m => exact Signed.ofInt (not_lt.mp (of_decide_eq_false checked))
  | real x =>
    intro negative
    -- A finite scalar is compared by its floor.
    change (if isFinite x then decide (Scalar.floor x < 0) else decide (x < 0)) = false at checked
    split at checked
    · exact of_decide_eq_false checked (Signed.floor negative)
    · exact of_decide_eq_false checked negative

theorem Number.not_negative_of_le (checked : n.le (.int 0) = false) : ¬ Negative n.value := by
  cases n with
  | bool b =>
    cases b with
    | false => cases checked
    | true => exact Signed.one
  | int m => exact Signed.ofInt (le_of_not_ge (of_decide_eq_false checked))
  | real x =>
    intro negative
    change (if isFinite x then decide (-Scalar.floor (-x) ≤ 0) else decide (x ≤ 0)) = false
      at checked
    split at checked
    · exact of_decide_eq_false checked (Int.neg_nonpos_of_nonneg (Signed.floor_neg negative))
    · exact of_decide_eq_false checked (le_of_lt negative)

theorem Number.not_negative_of_add {k : ℤ} {shift sum : Number α} (nonneg : 0 ≤ k)
    (checked : shift.lt (.int 0) = false) (added : (Number.int k).add shift = .ok sum) :
    ¬ Negative sum.value := by
  have shift_value := not_negative_of_lt checked
  simp only [Number.add, Number.combine] at added
  split at added
  next m n given whole =>
    obtain rfl := Option.some.inj given
    have n_nonneg : 0 ≤ n := by
      rw [Number.lt, whole] at checked
      exact le_of_not_gt (of_decide_eq_false checked)
    cases added
    exact Signed.ofInt (Int.add_nonneg nonneg n_nonneg)
  next =>
    obtain ⟨x, first, rest⟩ := bind_eq_ok.mp added
    obtain ⟨y, second, rest⟩ := bind_eq_ok.mp rest
    cases rest
    obtain rfl := toScalar_eq_ok first
    obtain rfl := toScalar_eq_ok second
    exact Signed.add (Signed.ofInt nonneg) shift_value

end Checks

namespace StepRule

variable {α : Type} [Scalar α]

inductive Made (r : StepRule α) : Prop
  | constant (arguments : Arguments α) (made : Stepsize.constant arguments = .ok (.rule r))
  | decreasing (arguments : Arguments α) (made : Stepsize.decreasing arguments = .ok (.rule r))

inductive Checked : StepRule α → Prop
  | constant {length : Number α} (kind : StepKind) (length_checked : length.lt (.int 0) = false) :
      Checked (constant length.value kind)
  | decreasing {length factor shift : Number α} (subtrahend exponent : α) (kind : StepKind)
      (length_checked : length.lt (.int 0) = false) (factor_checked : factor.le (.int 0) = false)
      (shift_checked : shift.lt (.int 0) = false) :
      Checked (decreasing length.value factor.value subtrahend exponent shift kind)

theorem Made.checked {r : StepRule α} (made : r.Made) : r.Checked := by
  obtain ⟨arguments, made⟩ | ⟨arguments, made⟩ := made
  · obtain ⟨_, -, rest⟩ := bind_eq_ok.mp made
    obtain ⟨length, length_checked, rest⟩ := bind_eq_ok.mp rest
    obtain ⟨kind, -, rest⟩ := bind_eq_ok.mp rest
    obtain ⟨x, scalar, rest⟩ := bind_eq_ok.mp rest
    obtain rfl := Number.toScalar_eq_ok scalar
    cases rest
    exact .constant kind (checkNonNegative_eq_ok length_checked)
  · obtain ⟨_, -, rest⟩ := bind_eq_ok.mp made
    obtain ⟨length, length_checked, rest⟩ := bind_eq_ok.mp rest
    obtain ⟨factor, factor_checked, rest⟩ := bind_eq_ok.mp rest
    obtain ⟨shift, shift_checked, rest⟩ := bind_eq_ok.mp rest
    obtain ⟨kind, -, rest⟩ := bind_eq_ok.mp rest
    obtain ⟨x, scalar, rest⟩ := bind_eq_ok.mp rest
    obtain ⟨y, scalar', rest⟩ := bind_eq_ok.mp rest
    obtain ⟨subtrahend, -, rest⟩ := bind_eq_ok.mp rest
    obtain ⟨exponent, -, rest⟩ := bind_eq_ok.mp rest
    obtain rfl := Number.toScalar_eq_ok scalar
    obtain rfl := Number.toScalar_eq_ok scalar'
    cases rest
    exact .decreasing subtrahend exponent kind (checkNonNegative_eq_ok length_checked)
      (checkPositive_eq_ok factor_checked) (checkNonNegative_eq_ok shift_checked)

/-- The linear decrease over `k` steps takes more than the length there is. -/
def Overdrawn (k : ℤ) : StepRule α → Prop
  | decreasing length _ subtrahend _ _ _ => Negative (length - Scalar.ofInt k * subtrahend)
  | _ => False

section Signs

variable [Ordered α] [Signed α]

theorem normalize_not_negative {length norm : α} (nonneg : ¬ Negative length) :
    ¬ Negative (normalize length norm) := by
  unfold normalize
  split
  next large =>
    refine Signed.div nonneg (fun negative => ?_) (Bool.eq_false_iff.mpr fun zero => ?_)
    · exact Signed.machine (le_of_lt (lt_trans large negative))
    · simp only [isZero, same, Bool.and_eq_true, decide_eq_true_eq] at zero
      exact Signed.machine (le_of_lt (lt_of_lt_of_le large zero.1))
  next => exact nonneg

variable {k : ℤ}

theorem decreasingLength_not_negative (powers : PowerSigned α) {length subtrahend exponent s : α}
    {factor shift : Number α} (nonneg : 0 ≤ k) (factor_checked : factor.le (.int 0) = false)
    (shift_checked : shift.lt (.int 0) = false)
    (left : ¬ Negative (length - Scalar.ofInt k * subtrahend))
    (given : decreasingLength length factor.value subtrahend exponent shift (.int k) = .ok s) :
    ¬ Negative s := by
  obtain ⟨top, decreased, rest⟩ := bind_eq_ok.mp given
  obtain ⟨shifted, added, rest⟩ := bind_eq_ok.mp rest
  obtain ⟨x, scalar, rest⟩ := bind_eq_ok.mp rest
  obtain ⟨harmonic, power, quotient⟩ := bind_eq_ok.mp rest
  obtain rfl := Number.toScalar_eq_ok scalar
  obtain ⟨count, counted, decreased⟩ := bind_eq_ok.mp decreased
  obtain ⟨decay, geometric, decreased⟩ := bind_eq_ok.mp decreased
  obtain rfl := Number.toScalar_eq_ok counted
  cases decreased
  have decay_nonneg :=
    checkedPower_not_negative powers (Number.not_negative_of_le factor_checked) geometric
  have harmonic_nonneg := checkedPower_not_negative powers
    (Number.not_negative_of_add nonneg shift_checked added) power
  exact checkedQuotient_not_negative (Signed.mul left decay_nonneg) harmonic_nonneg quotient

theorem overdrawn_of_negative (powers : PowerSigned α) {r : StepRule α} (checked : r.Checked)
    {M : Manifold α} {p v : Tensor α} (nonneg : 0 ≤ k) {s : α}
    (given : r.lengthAt M p v (.int k) = .ok s) (negative : Negative s) : r.Overdrawn k := by
  cases checked with
  | constant kind length_checked =>
    have length_nonneg := Number.not_negative_of_lt length_checked
    cases kind with
    | relative =>
      cases given
      exact length_nonneg negative
    | absolute =>
      obtain ⟨norm, -, rest⟩ := bind_eq_ok.mp given
      cases rest
      exact normalize_not_negative length_nonneg negative
  | decreasing subtrahend exponent kind _ factor_checked shift_checked =>
    by_contra left
    cases kind with
    | relative =>
      exact decreasingLength_not_negative powers nonneg factor_checked shift_checked left given
        negative
    | absolute =>
      obtain ⟨step, decreased, rest⟩ := bind_eq_ok.mp given
      obtain ⟨norm, -, rest⟩ := bind_eq_ok.mp rest
      cases rest
      exact normalize_not_negative
        (decreasingLength_not_negative powers nonneg factor_checked shift_checked left decreased)
        negative

end Signs

section Exact

variable {r : StepRule ℝ} {M : Manifold ℝ} {p v : Tensor ℝ} {k : ℤ}

theorem normalize_negative {length : ℝ} (negative : length < 0) (norm : ℝ) :
    normalize length norm < 0 := by
  unfold normalize
  split
  next large =>
    have machine_pos : (0 : ℝ) < Tolerance.machine := lt_of_not_ge Signed.machine
    exact div_neg_of_neg_of_pos negative (machine_pos.trans large)
  next => exact negative

theorem decreasingLength_of_checked {length subtrahend exponent : ℝ} {factor shift : Number ℝ}
    (first : 1 ≤ k) (factor_checked : factor.le (.int 0) = false)
    (shift_checked : shift.lt (.int 0) = false) :
    ∃ c > 0, decreasingLength length factor.value subtrahend exponent shift (.int k) =
      .ok ((length - k * subtrahend) * c) := by
  have factor_pos := Number.value_pos_of_le factor_checked
  have shift_nonneg := not_lt.mp (Number.not_negative_of_lt shift_checked)
  have later : 0 < (k : ℝ) + shift.value :=
    add_pos_of_pos_of_nonneg (Int.cast_pos.mpr first) shift_nonneg
  exact ⟨_, damping_pos factor_pos later, decreasingLength_real factor_pos later⟩

theorem exists_length (checked : r.Checked) (first : 1 ≤ k) {norm : ℝ}
    (measured : M.normNumber p v = .ok norm) : ∃ s, r.lengthAt M p v (.int k) = .ok s := by
  cases checked with
  | constant kind _ =>
    cases kind with
    | relative => exact ⟨_, rfl⟩
    | absolute => exact ⟨_, bind_eq_ok.mpr ⟨norm, measured, rfl⟩⟩
  | decreasing subtrahend exponent kind _ factor_checked shift_checked =>
    obtain ⟨c, -, value⟩ := decreasingLength_of_checked first factor_checked shift_checked
    cases kind with
    | relative => exact ⟨_, value⟩
    | absolute =>
      exact ⟨_, bind_eq_ok.mpr ⟨_, value, bind_eq_ok.mpr ⟨norm, measured, rfl⟩⟩⟩

theorem negative_of_overdrawn (checked : r.Checked) (first : 1 ≤ k) {s : ℝ}
    (given : r.lengthAt M p v (.int k) = .ok s) (overdrawn : r.Overdrawn k) : s < 0 := by
  cases checked with
  | constant => exact overdrawn.elim
  | decreasing subtrahend exponent kind _ factor_checked shift_checked =>
    obtain ⟨c, c_pos, value⟩ := decreasingLength_of_checked first factor_checked shift_checked
    have negative := mul_neg_of_neg_of_pos overdrawn c_pos
    cases kind with
    | relative =>
      cases value.symm.trans given
      exact negative
    | absolute =>
      obtain ⟨step, decreased, rest⟩ := bind_eq_ok.mp given
      obtain ⟨norm, -, rest⟩ := bind_eq_ok.mp rest
      cases value.symm.trans decreased
      cases rest
      exact normalize_negative negative norm

end Exact

/-- An accepted rule goes uphill only once its linear decrease takes more than the length there is,
also in floating point, and in exact arithmetic it does so then. -/
theorem negative_iff_overdrawn :
    (∀ {α : Type} [Scalar α] [Ordered α] [Signed α], PowerSigned α →
      ∀ {r : StepRule α}, r.Made → ∀ {M : Manifold α} {p v : Tensor α} {k : ℤ}, 1 ≤ k →
        ∀ {s : α}, r.lengthAt M p v (.int k) = .ok s → s < 0 → r.Overdrawn k) ∧
    ∀ {r : StepRule ℝ}, r.Made → ∀ {M : Manifold ℝ} {p v : Tensor ℝ} {k : ℤ}, 1 ≤ k →
      (∀ norm, M.normNumber p v = .ok norm → ∃ s, r.lengthAt M p v (.int k) = .ok s) ∧
      ∀ s, r.lengthAt M p v (.int k) = .ok s → (s < 0 ↔ r.Overdrawn k) := by
  refine ⟨fun powers r made M p v k first s given negative =>
    overdrawn_of_negative powers made.checked (by omega) given negative, ?_⟩
  intro r made M p v k first
  exact ⟨fun norm measured => exists_length made.checked first measured, fun s given =>
    ⟨overdrawn_of_negative powerSigned_real made.checked (by omega) given,
      negative_of_overdrawn made.checked first given⟩⟩

noncomputable def declining : StepRule ℝ := decreasing 1 1 1 1 (.int 0) .relative

theorem declining_made :
    Stepsize.decreasing [("subtrahend", .real 1)] = .ok (.rule declining) := by
  have one_nonneg : (Number.real (1 : ℝ)).lt (.int 0) = false := by
    rw [← Bool.not_eq_true, Number.lt_iff]
    simp [Number.value, Scalar.ofInt]
  have one_pos : (Number.real (1 : ℝ)).le (.int 0) = false := by
    rw [← Bool.not_eq_true, Number.le_iff]
    simp [Number.value, Scalar.ofInt]
  have length : checkNonNegative "length" (.real (1 : ℝ)) = .ok (.real 1) :=
    bind_eq_ok.mpr ⟨_, rfl, if_neg (Bool.not_eq_true _ ▸ one_nonneg)⟩
  have factor : checkPositive "factor" (.real (1 : ℝ)) = .ok (.real 1) :=
    bind_eq_ok.mpr ⟨_, rfl, if_neg (Bool.not_eq_true _ ▸ one_pos)⟩
  exact bind_eq_ok.mpr ⟨_, rfl, bind_eq_ok.mpr ⟨_, length, bind_eq_ok.mpr ⟨_, factor, rfl⟩⟩⟩

theorem declining_length (M : Manifold ℝ) (p v : Tensor ℝ) :
    declining.lengthAt M p v (.int 2) = .ok (-(1 / 2)) := by
  have given : declining.lengthAt M p v (.int 2) = _ :=
    decreasingLength_real one_pos (by norm_num [Number.value, Scalar.ofInt])
  rw [given]
  norm_num [damping, Number.value, Scalar.ofInt]

theorem unchecked_subtrahend_uphill :
    ∃ r : StepRule ℝ, Stepsize.decreasing [("subtrahend", .real 1)] = .ok (.rule r) ∧
      ∀ M p v, ∃ s < 0, r.lengthAt M p v (.int 2) = .ok s :=
  ⟨declining, declining_made, fun M p v => ⟨_, by norm_num, declining_length M p v⟩⟩

theorem declining_overdrawn :
    PowerSigned ℝ ∧ declining.Made ∧ (1 : ℤ) ≤ 2 ∧ declining.Overdrawn 2 ∧
      ∃ s : ℝ, declining.lengthAt (euclidean [1]) (.vector [0]) (.vector [1]) (.int 2) = .ok s ∧
        s < 0 := by
  have made : declining.Made := .decreasing _ declining_made
  have given := declining_length (euclidean [1]) (.vector [0]) (.vector [1])
  have overdrawn := negative_iff_overdrawn.1 powerSigned_real made (k := 2) (by decide) given
    (by norm_num)
  exact ⟨powerSigned_real, made, by decide, overdrawn, _, given,
    (((negative_iff_overdrawn.2 made (k := 2) (by decide)).2 _ given).mpr overdrawn)⟩

end StepRule

end ManifoldOpt
