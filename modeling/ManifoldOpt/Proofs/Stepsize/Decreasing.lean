import Mathlib.Tactic.Module
import ManifoldOpt.Proofs.Stepsize

set_option autoImplicit false

namespace ManifoldOpt

theorem Number.add_real (x y : Number ℝ) : ∃ z, x.add y = .ok z ∧ z.value = x.value + y.value := by
  unfold Number.add Number.combine
  split
  next m n hx hy =>
    exact ⟨_, rfl, by rw [value_of_int? hx, value_of_int? hy]; exact Int.cast_add m n⟩
  next =>
    rw [toScalar_real, toScalar_real]
    exact ⟨_, rfl, rfl⟩

theorem checkedPower_real {base : ℝ} (positive : 0 < base) (exponent : ℝ) :
    checkedPower base exponent = .ok (base ^ exponent) := by
  have nonzero : Scalar.isZero base = false := by simp [Scalar.isZero, Scalar.same, positive]
  simp only [checkedPower, nonzero, Scalar.isInfinite, Scalar.isFinite_real, Bool.false_and,
    Bool.not_true, Bool.and_false, Bool.false_eq_true, if_false]
  rfl

theorem checkedQuotient_real (a : ℝ) {b : ℝ} (positive : 0 < b) :
    checkedQuotient a b = .ok (a / b) := by
  have nonzero : Scalar.isZero b = false := by simp [Scalar.isZero, Scalar.same, positive]
  rw [checkedQuotient, nonzero, if_neg Bool.false_ne_true]

namespace StepRule

noncomputable def damping (factor exponent shift k : ℝ) : ℝ := factor ^ k / (k + shift) ^ exponent

variable {length factor subtrahend exponent : ℝ} {shift k : Number ℝ}

theorem damping_pos {shift k : ℝ} (factor_pos : 0 < factor) (later : 0 < k + shift) :
    0 < damping factor exponent shift k :=
  div_pos (Real.rpow_pos_of_pos factor_pos k) (Real.rpow_pos_of_pos later exponent)

theorem damping_antitone {shift j k : ℝ} (factor_pos : 0 < factor) (factor_le : factor ≤ 1)
    (exponent_nonneg : 0 ≤ exponent) (later : 0 < j + shift) (le : j ≤ k) :
    damping factor exponent shift k ≤ damping factor exponent shift j := by
  have geometric : factor ^ k ≤ factor ^ j :=
    Real.rpow_le_rpow_of_exponent_ge factor_pos factor_le le
  have harmonic : (j + shift) ^ exponent ≤ (k + shift) ^ exponent :=
    Real.rpow_le_rpow later.le (add_le_add_left le shift) exponent_nonneg
  exact div_le_div₀ (Real.rpow_pos_of_pos factor_pos j).le geometric
    (Real.rpow_pos_of_pos later exponent) harmonic

open Outcome in
theorem decreasingLength_real (factor_pos : 0 < factor) (later : 0 < k.value + shift.value) :
    decreasingLength length factor subtrahend exponent shift k =
      .ok ((length - k.value * subtrahend) * damping factor exponent shift.value k.value) := by
  obtain ⟨shifted, added, value⟩ := k.add_real shift
  have top : decayed length factor subtrahend k =
      .ok ((length - k.value * subtrahend) * factor ^ k.value) :=
    bind_eq_ok.mpr ⟨_, k.toScalar_real, bind_eq_ok.mpr ⟨_, checkedPower_real factor_pos _, rfl⟩⟩
  have harmonic : checkedPower shifted.value exponent =
      .ok ((k.value + shift.value) ^ exponent) :=
    value ▸ checkedPower_real (value.symm ▸ later) exponent
  have quotient := checkedQuotient_real ((length - k.value * subtrahend) * factor ^ k.value)
    (Real.rpow_pos_of_pos later exponent)
  rw [damping, ← mul_div_assoc]
  exact bind_eq_ok.mpr ⟨_, top, bind_eq_ok.mpr ⟨_, added, bind_eq_ok.mpr
    ⟨_, shifted.toScalar_real, bind_eq_ok.mpr ⟨_, harmonic, quotient⟩⟩⟩⟩

/-- A decreasing length never grows and stays non-negative until its linear part is used up; it is
there at every step. -/
theorem decreasing_antitone {length factor subtrahend exponent : ℝ} {shift : Number ℝ}
    (factor_pos : 0 < factor) (factor_le : factor ≤ 1) (subtrahend_nonneg : 0 ≤ subtrahend)
    (exponent_nonneg : 0 ≤ exponent) (shift_nonneg : 0 ≤ shift.value) :
    ∃ step : ℤ → ℝ,
      (∀ M p v (k : ℤ), 1 ≤ k → lengthAt M p v (.int k)
        (decreasing length factor subtrahend exponent shift .relative) = .ok (step k)) ∧
      ∀ j k : ℤ, 1 ≤ j → j ≤ k → 0 ≤ length - k * subtrahend → 0 ≤ step k ∧ step k ≤ step j := by
  have later {k : ℤ} (first : 1 ≤ k) : 0 < (k : ℝ) + shift.value :=
    add_pos_of_pos_of_nonneg (Int.cast_pos.mpr first) shift_nonneg
  refine ⟨fun k => (length - k * subtrahend) * damping factor exponent shift.value k,
    fun M p v k first => decreasingLength_real factor_pos (later first), ?_⟩
  intro j k first le left
  have positive : 0 ≤ damping factor exponent shift.value k :=
    (damping_pos factor_pos (later (first.trans le))).le
  have linear : length - k * subtrahend ≤ length - j * subtrahend :=
    sub_le_sub_left (mul_le_mul_of_nonneg_right (Int.cast_le.mpr le) subtrahend_nonneg) length
  exact ⟨mul_nonneg left positive, mul_le_mul linear
    (damping_antitone factor_pos factor_le exponent_nonneg (later first) (Int.cast_le.mpr le))
    positive (left.trans linear)⟩

theorem halving_antitone :
    ∃ step : ℤ → ℝ,
      (∀ M p v (k : ℤ), 1 ≤ k → lengthAt M p v (.int k)
        (decreasing 1 (1 / 2) (1 / 8) 1 (.int 2) .relative) = .ok (step k)) ∧
      0 ≤ step 8 ∧ step 8 ≤ step 3 := by
  obtain ⟨step, given, antitone⟩ := @decreasing_antitone 1 (1 / 2) (1 / 8) 1 (.int 2)
    (by norm_num) (by norm_num) (by norm_num) (by norm_num)
    (by norm_num [Number.value, Scalar.ofInt])
  exact ⟨step, given, antitone 3 8 (by decide) (by decide) (by norm_num)⟩

end StepRule

end ManifoldOpt
