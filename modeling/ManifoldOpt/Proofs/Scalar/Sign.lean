import Mathlib
import ManifoldOpt.Proofs.Scalar.Bits
import ManifoldOpt.Proofs.Scalar.Exact

/-!
The rules of signs. Sums, products and quotients of scalars that are not negative are not negative
either; in binary floating point this is read off the operations on signs, exponents and mantissas,
since rounding keeps the sign. Undefined values count as not negative, so nothing has to be finite.
-/

set_option autoImplicit false

namespace ManifoldOpt

namespace Scalar

open Float.Model UnpackedFloat

abbrev Negative {α : Type} [Scalar α] (x : α) : Prop := x < 0

def Below : UnpackedFloat → Prop
  | .infinity s => s = .negative
  | .finite s _ _ _ => s = .negative
  | _ => False

theorem place_zero : place (0.0 : Float) = some (toLex (0, toLex (0, 0))) := rfl

theorem float_negative_iff {x : Float} : Negative x ↔ Below x.toModel.unpack := by
  refine float_lt_iff.trans ?_
  change (∃ r ∈ place x, ∃ s ∈ place 0.0, r < s) ↔ _
  rw [place_zero, place]
  generalize x.toModel.unpack = u
  rcases u with (_ | _) | _ | (_ | _) | ⟨(_ | _), m, e, _⟩ <;>
    simp [rank, Below, Prod.Lex.lt_iff]

theorem unpack_packComponents {spec : Format} {s : Sign} {e : BitVec spec.exponentBits}
    {m : BitVec spec.mantissaBitsWithoutImplicit}
    (negative : Below (unpack spec (packComponents spec s e m))) : s = .negative := by
  simp only [UnpackedFloat.unpack, unpackSign_packComponents, ofBitVec_toBitVec] at negative
  split at negative
  · split at negative
    · exact negative
    · cases negative
  · split at negative
    · split at negative
      · cases negative
      · exact negative
    · exact negative

theorem unpack_pack {u : UnpackedFloat} (negative : Below (Float.Model.pack u).unpack) :
    Below u := by
  change Below (UnpackedFloat.unpack .binary64 (UnpackedFloat.pack .binary64 u)) at negative
  cases u with
  | notANumber => exact nomatch unpack_packComponents negative
  | infinity s => exact unpack_packComponents negative
  | zero s => cases s <;> exact negative.elim
  | finite s m e positive =>
    simp only [UnpackedFloat.pack] at negative
    split at negative
    · exact unpack_packComponents negative
    · split at negative <;> exact unpack_packComponents negative

theorem negative_round {spec : Format} {s : Sign} {m : ℕ} {e : ℤ} {accuracy : Accuracy}
    (negative : Below (roundWithAccuracy spec s m e accuracy)) : s = .negative := by
  simp only [roundWithAccuracy] at negative
  split at negative
  · exact negative.elim
  · exact negative

theorem negative_normalize {spec : Format} {m e : ℤ} {zero : Sign}
    (negative : Below (UnpackedFloat.normalize spec m e zero)) : m < 0 := by
  unfold UnpackedFloat.normalize at negative
  cases order : compare m 0 with
  | lt => exact compare_lt_iff_lt.mp order
  | eq =>
    rw [order] at negative
    exact negative.elim
  | gt =>
    rw [order] at negative
    exact nomatch negative_round negative

theorem sign_mul {s t : Sign} (negative : s * t = .negative) : s = .negative ∨ t = .negative := by
  cases s with
  | negative => exact .inl rfl
  | positive =>
    cases t with
    | negative => exact .inr rfl
    | positive => exact nomatch negative

theorem sign_div {s t : Sign} (negative : s / t = .negative) : s = .negative ∨ t = .negative :=
  sign_mul negative

theorem negative_mul {spec : Format} {u v : UnpackedFloat}
    (negative : Below (UnpackedFloat.mul spec u v)) : Below u ∨ Below v := by
  cases u with
  | notANumber => exact negative.elim
  | zero s => cases v <;> exact negative.elim
  | infinity s =>
    cases v with
    | notANumber | zero t => exact negative.elim
    | infinity t => exact sign_mul negative
    | finite t n d => exact sign_mul negative
  | finite s m e =>
    cases v with
    | notANumber | zero t => exact negative.elim
    | infinity t => exact sign_mul negative
    | finite t n d => exact sign_mul (negative_round negative)

theorem negative_div {spec : Format} {u v : UnpackedFloat}
    (negative : Below (UnpackedFloat.div spec u v)) :
    (Below u ∨ Below v) ∨ ∃ s, v = .zero s := by
  cases v with
  | notANumber => cases u <;> exact negative.elim
  | zero t => exact .inr ⟨t, rfl⟩
  | infinity t => cases u <;> exact negative.elim
  | finite t n d =>
    cases u with
    | notANumber | zero s => exact negative.elim
    | infinity s => exact .inl (sign_div negative)
    | finite s m e => exact .inl (sign_div (negative_round negative))

theorem negative_add {spec : Format} {u v : UnpackedFloat}
    (negative : Below (UnpackedFloat.add spec u v)) : Below u ∨ Below v := by
  cases u with
  | notANumber => exact negative.elim
  | infinity s =>
    refine .inl ?_
    cases v with
    | notANumber => exact negative.elim
    | infinity t =>
      change Below (if (s == t) = true then .infinity s else .notANumber) at negative
      split at negative
      · exact negative
      · exact negative.elim
    | zero t | finite t n d => exact negative
  | zero s =>
    cases v with
    | notANumber => exact negative.elim
    | infinity t | finite t n d => exact .inr negative
    | zero t =>
      change Below (if (s == t) = true then .zero s else .zero .positive) at negative
      split at negative
      · exact negative.elim
      · exact negative.elim
  | finite s m e =>
    cases v with
    | notANumber => exact negative.elim
    | infinity t => exact .inr negative
    | zero t => exact .inl negative
    | finite t n d =>
      -- Without a negative sign both mantissas are added as they are.
      cases s with
      | negative => exact .inl rfl
      | positive =>
        cases t with
        | negative => exact .inr rfl
        | positive =>
          exact absurd (negative_normalize negative)
            (not_lt.mpr (Int.add_nonneg (Int.natCast_nonneg _) (Int.natCast_nonneg _)))

theorem float_mul {x y : Float} (hx : ¬ Negative x) (hy : ¬ Negative y) : ¬ Negative (x * y) := by
  rw [float_negative_iff] at *
  intro negative
  exact (negative_mul (unpack_pack negative)).elim hx hy

theorem float_add {x y : Float} (hx : ¬ Negative x) (hy : ¬ Negative y) : ¬ Negative (x + y) := by
  rw [float_negative_iff] at *
  intro negative
  exact (negative_add (unpack_pack negative)).elim hx hy

theorem float_isZero {x : Float} {s : Sign} (zero : x.toModel.unpack = .zero s) : isZero x = true := by
  have place_x : place x = some (toLex (0, toLex (0, 0))) := by rw [place, zero]; rfl
  simp only [isZero, same, Bool.and_eq_true, decide_eq_true_eq]
  exact ⟨float_le_iff.mpr ⟨_, place_x, _, place_zero, le_rfl⟩,
    float_le_iff.mpr ⟨_, place_zero, _, place_x, le_rfl⟩⟩

theorem float_div {x y : Float} (hx : ¬ Negative x) (hy : ¬ Negative y) (nonzero : isZero y = false) :
    ¬ Negative (x / y) := by
  rw [float_negative_iff] at *
  intro negative
  obtain (above | above) | ⟨s, zero⟩ := negative_div (unpack_pack negative)
  · exact hx above
  · exact hy above
  · rw [float_isZero zero] at nonzero
    cases nonzero

theorem float_ofUInt64 (n : UInt64) : ¬ Negative (n.toFloat) := by
  rw [float_negative_iff]
  intro negative
  have below : (n.toNat : ℤ) < 0 := negative_normalize (unpack_pack negative)
  omega

theorem negative_ofScientific {spec : Format} {m : ℕ} {e : ℤ} :
    ¬ Below (UnpackedFloat.ofScientific spec m e) := by
  unfold UnpackedFloat.ofScientific
  intro negative
  split at negative
  · exact negative
  split at negative
  · cases negative
  split at negative
  · exact negative
  split at negative
  · exact (negative_mul negative).elim (nomatch ·) (nomatch ·)
  · obtain (above | above) | ⟨s, zero⟩ := negative_div negative
    · cases above
    · cases above
    · cases zero

theorem float_ofNat (n : ℕ) : ¬ Negative (Float.ofNat n) := by
  unfold Float.ofNat
  change ¬ Float.ofScientific n false 0 < 0
  unfold Float.ofScientific
  split
  next small =>
    have one : ¬ Float.exactlyRepresentablePowersOfTen[0] < 0.0 := by decide +kernel
    exact float_mul (float_ofUInt64 _) one
  next =>
    change ¬ Negative (_ : Float)
    rw [float_negative_iff]
    intro negative
    exact negative_ofScientific (unpack_pack negative)

theorem float_neg {x : Float} (negative : Negative x) : ¬ Negative (-x) := by
  rw [float_negative_iff] at *
  intro opposite
  rw [unpack_neg] at opposite
  revert negative opposite
  rcases x.toModel.unpack with (_ | _) | _ | (_ | _) | ⟨(_ | _), m, e, _⟩ <;>
    simp [Below, UnpackedFloat.neg]

theorem ofFloat_mantissa {x : Float} (negative : Negative x) : (Binary.ofFloat x).mantissa ≠ 0 := by
  rw [float_negative_iff] at negative
  have stored := float_stored x
  generalize Binary.ofFloat x = b at stored ⊢
  generalize x.toModel.unpack = u at stored negative
  cases stored with
  | notANumber | zero => exact negative.elim
  | infinity _ pos | subnormal _ pos | normal _ pos => exact Nat.ne_of_gt pos

theorem floor_negative {x : Binary} (some : x.mantissa ≠ 0) : x.floor true < 0 := by
  have size : 0 < x.mantissa * Nat.pow 2 x.exponent.toNat :=
    Nat.mul_pos (Nat.pos_of_ne_zero some) (Nat.pow_pos two_pos)
  have scale : 0 < Nat.pow 2 (-x.exponent).toNat := Nat.pow_pos two_pos
  have divided : x.floor true = -((x.mantissa * Nat.pow 2 x.exponent.toNat : ℕ) : ℤ) /
      ((Nat.pow 2 (-x.exponent).toNat : ℕ) : ℤ) :=
    Int.fdiv_eq_ediv_of_nonneg _ (Int.natCast_nonneg _)
  rw [divided]
  exact Int.ediv_neg_of_neg_of_pos (Int.neg_neg_of_pos (Int.natCast_pos.mpr size))
    (Int.natCast_pos.mpr scale)

theorem floor_nonneg (x : Binary) : 0 ≤ x.floor false :=
  Int.fdiv_nonneg (Int.natCast_nonneg _) (Int.natCast_nonneg _)

class Signed (α : Type) [Scalar α] : Prop where
  one : ¬ Negative (1 : α)
  add : ∀ {x y : α}, ¬ Negative x → ¬ Negative y → ¬ Negative (x + y)
  mul : ∀ {x y : α}, ¬ Negative x → ¬ Negative y → ¬ Negative (x * y)
  div : ∀ {x y : α}, ¬ Negative x → ¬ Negative y → isZero y = false → ¬ Negative (x / y)
  ofInt : ∀ {n : ℤ}, 0 ≤ n → ¬ Negative (ofInt n : α)
  floor : ∀ {x : α}, Negative x → floor x < 0
  floor_neg : ∀ {x : α}, Negative x → 0 ≤ Scalar.floor (-x)
  machine : ¬ (Tolerance.machine : α) ≤ 0

instance instSignedFloat : Signed Float where
  one := show ¬ (1.0 : Float) < 0.0 by decide +kernel
  add := float_add
  mul := float_mul
  div := float_div
  ofInt {n} nonneg := by
    obtain ⟨m, rfl⟩ := Int.eq_ofNat_of_zero_le nonneg
    exact float_ofNat m
  floor {x} negative := by
    have sign : decide (x < 0) = true := decide_eq_true negative
    change Binary.floor (decide (x < 0)) _ < 0
    rw [sign]
    exact floor_negative (ofFloat_mantissa negative)
  floor_neg {x} negative := by
    have sign : decide (-x < 0) = false := decide_eq_false (float_neg negative)
    change 0 ≤ Binary.floor (decide (-x < 0)) _
    rw [sign]
    exact floor_nonneg _
  machine := show ¬ (2.220446049250313e-16 : Float) ≤ 0.0 by decide +kernel

instance instSignedReal : Signed ℝ where
  one := not_lt.mpr zero_le_one
  add hx hy := not_lt.mpr (add_nonneg (not_lt.mp hx) (not_lt.mp hy))
  mul hx hy := not_lt.mpr (mul_nonneg (not_lt.mp hx) (not_lt.mp hy))
  div hx hy _ := not_lt.mpr (div_nonneg (not_lt.mp hx) (not_lt.mp hy))
  ofInt nonneg := not_lt.mpr (Int.cast_nonneg nonneg)
  floor negative := Int.floor_lt.mpr (by simpa using negative)
  floor_neg negative := Int.floor_nonneg.mpr (neg_nonneg.mpr (le_of_lt negative))
  machine := not_le.mpr (by norm_num [Tolerance.machine])

/-- A power of a value that is not negative is not negative, unless a zero has no such power. The
power of floating point numbers is that of the platform, of which this is all that is asked. -/
def PowerSigned (α : Type) [Scalar α] : Prop :=
  ∀ x y : α, ¬ Negative x → ¬ (isZero x = true ∧ y < 0 ∧ isFinite y = true) → ¬ Negative (pow x y)

theorem powerSigned_real : PowerSigned ℝ := fun _ y nonneg _ =>
  not_lt.mpr (Real.rpow_nonneg (not_lt.mp nonneg) y)

end Scalar

end ManifoldOpt
