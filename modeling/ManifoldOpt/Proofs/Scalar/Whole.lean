import ManifoldOpt.Proofs.Scalar.Sign

/-!
Floating point numbers beside whole numbers. A number is compared with a whole one by its floor, which
is found from its bits; beside zero and one this is the order of floating point numbers.
-/

set_option autoImplicit false

namespace ManifoldOpt

namespace Scalar

open Float.Model UnpackedFloat

variable {x : Float}

abbrev unit : ℤ ×ₗ ℤ ×ₗ ℤ := toLex (1, toLex (-52, 4503599627370496))

theorem place_one : place (1.0 : Float) = some unit := rfl

theorem float_positive_iff : 0 < x ↔ Negative (-x) := by
  rw [float_negative_iff, unpack_neg]
  refine float_lt_iff.trans ?_
  change (∃ r ∈ place 0.0, ∃ s ∈ place x, r < s) ↔ _
  rw [place_zero, place]
  generalize x.toModel.unpack = u
  rcases u with (_ | _) | _ | (_ | _) | ⟨(_ | _), m, e, _⟩ <;>
    simp [rank, Below, UnpackedFloat.neg, Prod.Lex.lt_iff] <;> rfl

theorem float_isFinite (x : Float) : isFinite x = x.toModel.unpack.isFinite := by
  have difference : isFinite x = decide (∃ r ∈ place 0.0, ∃ s ∈
      rank (Float.Model.pack (UnpackedFloat.sub .binary64 x.toModel.unpack x.toModel.unpack)).unpack,
      r ≤ s) := decide_eq_decide.mpr float_le_iff
  rw [difference, place_zero]
  generalize x.toModel.unpack = u
  rcases u with (_ | _) | _ | (_ | _) | ⟨s, m, e, pos⟩
  case finite =>
    have cancelled : UnpackedFloat.sub .binary64 (.finite s m e pos) (.finite s m e pos) =
        .zero .positive := by
      simp only [UnpackedFloat.sub, Int.sub_self]
      rfl
    rw [cancelled]
    rfl
  all_goals rfl

theorem float_floor_lt_zero : Scalar.floor x < 0 ↔ x < 0 := by
  refine ⟨fun below => ?_, Signed.floor⟩
  by_contra nonneg
  change Binary.floor (decide (x < 0)) _ < 0 at below
  rw [decide_eq_false nonneg] at below
  exact not_lt.mpr (floor_nonneg _) below

theorem floor_lt_one {b : Binary} :
    b.floor false < 1 ↔ b.mantissa * 2 ^ b.exponent.toNat < 2 ^ (-b.exponent).toNat := by
  change Int.fdiv ((b.mantissa * 2 ^ b.exponent.toNat : ℕ) : ℤ) ((2 ^ (-b.exponent).toNat : ℕ) : ℤ)
    < 1 ↔ _
  rw [Int.fdiv_eq_ediv_of_nonneg _ (Int.natCast_nonneg _), ← Int.natCast_ediv,
    Nat.cast_lt_one, Nat.div_eq_zero_iff_lt (Nat.two_pow_pos _)]

theorem floor_lt_one_of_exponent {m : ℕ} {e : ℤ} (fits : m < 2 ^ 53) (below : e < -52) :
    Binary.floor false ⟨m, e⟩ < 1 := by
  rw [floor_lt_one]
  have shifted : e.toNat = 0 := by omega
  change m * 2 ^ e.toNat < 2 ^ (-e).toNat
  calc m * 2 ^ e.toNat = m := by rw [shifted, Nat.pow_zero, Nat.mul_one]
    _ < 2 ^ 53 := fits
    _ ≤ 2 ^ (-e).toNat := Nat.pow_le_pow_right two_pos (by omega)

theorem not_floor_lt_one_of_exponent {m : ℕ} {e : ℤ} (large : 2 ^ 52 ≤ m) (above : -52 ≤ e) :
    ¬ Binary.floor false ⟨m, e⟩ < 1 := by
  rw [floor_lt_one, not_lt]
  change 2 ^ (-e).toNat ≤ m * 2 ^ e.toNat
  calc 2 ^ (-e).toNat ≤ 2 ^ 52 := Nat.pow_le_pow_right two_pos (by omega)
    _ ≤ m := large
    _ ≤ m * 2 ^ e.toNat := Nat.le_mul_of_pos_right m (Nat.two_pow_pos _)

theorem Stored.floor_lt_one_iff {b : Binary} {u : UnpackedFloat} (stored : Stored b u)
    (above : ¬ Below u) (finite : u.isFinite = true) :
    b.floor false < 1 ↔ ∃ r ∈ rank u, r < unit := by
  cases stored with
  | notANumber | infinity => cases finite
  | zero s e =>
    have lower : toLex (0, toLex (0, 0)) < unit := by decide
    simp [rank, floor_lt_one, lower]
  | @subnormal s m pos small =>
    have floor : Binary.floor false ⟨m, -1074⟩ < 1 :=
      floor_lt_one_of_exponent (small.trans (by decide)) (by decide)
    cases s with
    | negative => exact absurd rfl above
    | positive => simp [rank, Prod.Lex.lt_iff, floor]
  | @normal s m e pos large fits least greatest =>
    cases s with
    | negative => exact absurd rfl above
    | positive =>
      have place : (∃ r ∈ rank (.finite .positive m e pos), r < unit) ↔ e < -52 := by
        simp [rank, Prod.Lex.lt_iff]
        omega
      rw [place]
      refine ⟨fun floor => ?_, floor_lt_one_of_exponent fits⟩
      by_contra far
      exact not_floor_lt_one_of_exponent large (not_lt.mp far) floor

theorem float_defined_of_finite (finite : isFinite x = true) : isNaN x = false := by
  rw [float_isFinite] at finite
  refine isNaN_eq_false_iff.mpr (float_le_iff.mpr ?_)
  rw [place]
  revert finite
  rcases x.toModel.unpack with (_ | _) | _ | (_ | _) | ⟨(_ | _), m, e, _⟩ <;>
    simp [rank, UnpackedFloat.isFinite]

end Scalar

namespace Number

open Scalar Float.Model

variable {x : Float}

theorem real_lt_zero : (real x).lt (.int 0) = true ↔ x < 0 := by
  change (if isFinite x then decide (Scalar.floor x < 0) else decide (x < 0)) = true ↔ _
  split <;> simp [float_floor_lt_zero]

theorem real_le_zero : (real x).le (.int 0) = true ↔ x ≤ 0 := by
  change (if isFinite x then decide (-Scalar.floor (-x) ≤ 0) else decide (x ≤ 0)) = true ↔ _
  split
  next finite =>
    have defined : isNaN x = false := float_defined_of_finite finite
    rw [decide_eq_true_eq, Int.neg_nonpos_iff, ← not_lt, float_floor_lt_zero]
    refine (not_congr float_positive_iff.symm).trans ⟨le_of_not_lt rfl defined, fun le lt => ?_⟩
    exact (Ordered.lt_iff.mp lt).2 le
  next => rw [decide_eq_true_eq]

theorem real_lt_one : (real x).lt (.int 1) = true ↔ x < 1 := by
  change (if isFinite x then decide (Scalar.floor x < 1) else decide (x < 0)) = true ↔ _
  have one : x < 1 ↔ ∃ r ∈ place x, r < unit := by
    refine float_lt_iff.trans ?_
    change (∃ r ∈ place x, ∃ s ∈ place 1.0, r < s) ↔ _
    simp only [place_one, Option.mem_some_iff, exists_eq_left']
  split
  next finite =>
    rw [decide_eq_true_eq]
    by_cases negative : x < 0
    · have floor := float_floor_lt_zero.mpr negative
      have below : x < 1 := Scalar.lt_trans negative (by decide +kernel)
      exact iff_of_true (by omega) below
    · have nonneg : decide (x < 0) = false := decide_eq_false negative
      rw [one]
      change Binary.floor (decide (x < 0)) _ < 1 ↔ _
      rw [nonneg]
      exact (float_stored x).floor_lt_one_iff (float_negative_iff.not.mp negative)
        (float_isFinite x ▸ finite)
  next infinite =>
    rw [float_isFinite] at infinite
    rw [decide_eq_true_eq, one, place]
    refine float_negative_iff.trans ?_
    revert infinite
    rcases x.toModel.unpack with (_ | _) | _ | (_ | _) | ⟨(_ | _), m, e, _⟩ <;>
      simp [rank, Below, UnpackedFloat.isFinite, Prod.Lex.lt_iff]

end Number

end ManifoldOpt
