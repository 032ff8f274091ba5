import ManifoldOpt.Proofs.Scalar.Exact
import ManifoldOpt.Proofs.Scalar.Whole

/-!
Numbers of full precision. The multiple by one of such a number is that number, since a mantissa with
all its bits is rounded to itself, and adding a zero to it changes nothing. Arrays compute with these
numbers and with zeros only, as they take a number that is too small for a zero.
-/

set_option autoImplicit false

namespace ManifoldOpt

namespace Scalar

section Rounding

open Float.Model UnpackedFloat

theorem shift_exact (k m : ℕ) :
    ExtendedMantissa.ofMantissaAndAccuracy (m * 2 ^ k) .exact >>> k =
      ExtendedMantissa.ofMantissaAndAccuracy m .exact := by
  change k.repeat ExtendedMantissa.shiftRightOne _ = _
  -- Each shift drops one zero, so that nothing is left behind.
  induction k generalizing m with
  | zero =>
    rw [Nat.pow_zero, Nat.mul_one]
    rfl
  | succ k ih =>
    rw [Nat.repeat, Nat.pow_succ', ← Nat.mul_assoc, ih]
    simp [ExtendedMantissa.shiftRightOne, ExtendedMantissa.ofMantissaAndAccuracy]

variable {s : Sign} {m : ℕ} {e : ℤ} (large : 2 ^ 52 ≤ m) (fits : m < 2 ^ 53) (least : -1074 ≤ e)

include large fits least

theorem shiftToTargetExponent_exact (k : ℕ) :
    shiftToTargetExponent .binary64 (m * 2 ^ k) (e - k) .exact =
      (ExtendedMantissa.ofMantissaAndAccuracy m .exact, e) := by
  have bits : (m * 2 ^ k).log2 = 52 + k := by
    have scale := Nat.two_pow_pos k
    refine (Nat.log2_eq_iff (Nat.mul_ne_zero (by omega) scale.ne')).mpr ⟨?_, ?_⟩
    · rw [Nat.pow_add]
      exact Nat.mul_le_mul_right _ large
    · rw [Nat.add_right_comm, Nat.pow_add]
      exact Nat.mul_lt_mul_of_pos_right fits scale
  have target : Format.binary64.targetExponent (totalExponent (m * 2 ^ k) (e - k)) = e := by
    have lowest : Format.binary64.minExponent = -1074 := rfl
    have width : Format.binary64.mantissaBits = 53 := rfl
    simp only [Format.targetExponent, totalExponent, bits, lowest, width]
    omega
  have amount : (e - (e - k)).toNat = k := by omega
  simp only [shiftToTargetExponent, shiftToExponent, target, amount, shift_exact,
    Int.sub_add_cancel]

theorem roundWithAccuracy_full (pos : 0 < m) (k : ℕ) :
    roundWithAccuracy .binary64 s (m * 2 ^ k) (e - k) .exact = .finite s m e pos := by
  have rounded : (ExtendedMantissa.ofMantissaAndAccuracy m .exact).roundedMantissa = m := rfl
  have again : shiftToTargetExponent .binary64 m e .exact =
      (ExtendedMantissa.ofMantissaAndAccuracy m .exact, e) := by
    simpa using shiftToTargetExponent_exact large fits least 0
  simp only [roundWithAccuracy, shiftToTargetExponent_exact large fits least, rounded, again]
  exact dif_neg (Nat.ne_of_gt pos)

end Rounding

open Float.Model UnpackedFloat

def signedZero (s : Sign) : Float := .ofModel (.pack (.zero s))

theorem unpack_signedZero (s : Sign) : (signedZero s).toModel.unpack = .zero s := by
  cases s <;> rfl

theorem isFinite_signedZero (s : Sign) : isFinite (signedZero s) = true := by
  rw [float_isFinite, unpack_signedZero]
  rfl

def Full : UnpackedFloat → Prop
  | .finite _ m _ _ => 2 ^ 52 ≤ m
  | _ => False

variable {x : Float}

theorem isFinite_of_full (full : Full x.toModel.unpack) : isFinite x = true := by
  rw [float_isFinite]
  generalize x.toModel.unpack = u at *
  cases u with
  | notANumber | infinity | zero => cases full
  | finite => rfl

theorem float_mul_comm (x y : Float) : x * y = y * x := by
  have signs (s t : Sign) : s * t = t * s := by cases s <;> cases t <;> rfl
  change Float.ofModel (.pack (.mul _ _ _)) = Float.ofModel (.pack (.mul _ _ _))
  generalize x.toModel.unpack = u, y.toModel.unpack = v
  cases u <;> cases v <;> simp [UnpackedFloat.mul, signs, Nat.mul_comm, Int.add_comm]

theorem one_mul_signedZero (s : Sign) : 1.0 * signedZero s = signedZero s := by cases s <;> rfl

theorem zero_mul_signedZero (s : Sign) : 0.0 * signedZero s = signedZero s := by cases s <;> rfl

theorem zero_add_signedZero (s : Sign) : 0.0 + signedZero s = 0.0 := by cases s <;> rfl

theorem zero_mul_of_finite (finite : isFinite x = true) : ∃ s, 0.0 * x = signedZero s := by
  rw [float_isFinite] at finite
  change ∃ s, Float.ofModel (.pack (.mul _ (.zero .positive) x.toModel.unpack)) = _
  generalize x.toModel.unpack = u at finite
  cases u with
  | notANumber | infinity => cases finite
  | zero | finite => exact ⟨_, rfl⟩

theorem one_mul_of_full (full : Full x.toModel.unpack) : 1.0 * x = x := by
  have sign (s : Sign) : .positive * s = s := by cases s <;> rfl
  have unit : (1.0 : Float).toModel.unpack =
      .finite .positive (2 ^ 52) (-52) (Nat.two_pow_pos 52) := by rfl
  refine eq_of_pack ?_
  rw [unit]
  have stored := float_stored x
  generalize x.toModel.unpack = u, Binary.ofFloat x = b at *
  cases stored with
  | notANumber | infinity | zero => cases full
  | subnormal s pos small => exact absurd full (Nat.not_le.mpr small)
  | @normal s m e pos large fits least =>
    have exponent : -52 + e = e - (52 : ℕ) := Int.add_comm _ _
    -- The mantissa of one adds as many zeros as its exponent takes away.
    simp only [UnpackedFloat.mul, sign, Nat.mul_comm (2 ^ 52), exponent]
    exact roundWithAccuracy_full large fits least pos 52

theorem zero_add_of_full (full : Full x.toModel.unpack) : 0.0 + x = x := by
  change Float.ofModel (.pack (.add _ (.zero .positive) _)) = _
  refine eq_of_pack ?_
  generalize x.toModel.unpack = u at *
  cases u with
  | notANumber | infinity | zero => cases full
  | finite => rfl

theorem add_zero_of_full (full : Full x.toModel.unpack) (s : Sign) : x + signedZero s = x := by
  refine eq_of_pack ?_
  rw [unpack_signedZero]
  generalize x.toModel.unpack = u at *
  cases u with
  | notANumber | infinity | zero => cases full
  | finite => rfl

abbrev leastFull : ℤ ×ₗ ℤ ×ₗ ℤ := toLex (1, toLex (-1074, 2 ^ 52))

theorem place_leastNormal : place Binary.leastNormal = some leastFull := by decide +kernel

theorem Stored.rank_abs_lt_iff {b : Binary} {u : UnpackedFloat} (stored : Stored b u)
    (finite : u.isFinite = true) : (∃ r ∈ rank u.abs, r < leastFull) ↔ ¬ Full u := by
  cases stored with
  | notANumber | infinity => cases finite
  | zero | subnormal => simp [UnpackedFloat.abs, rank, Prod.Lex.lt_iff, Full]
  | @normal s m e pos large fits least greatest =>
    have order : e < -1074 ∨ e = -1074 ∧ m < 2 ^ 52 ↔ m < 2 ^ 52 := by omega
    simpa [UnpackedFloat.abs, rank, Prod.Lex.lt_iff, Full] using order

theorem abs_lt_leastNormal_iff (finite : isFinite x = true) :
    x.abs < Binary.leastNormal ↔ ¬ Full x.toModel.unpack := by
  rw [float_isFinite] at finite
  rw [← (float_stored x).rank_abs_lt_iff finite, float_lt_iff, place_leastNormal, place, unpack_abs]
  simp

theorem flush_of_full (full : Full x.toModel.unpack) : flush x = x :=
  if_neg fun small => (abs_lt_leastNormal_iff (isFinite_of_full full)).mp small full

theorem flush_of_small (finite : isFinite x = true) (small : ¬ Full x.toModel.unpack) :
    flush x = 0.0 * x :=
  (if_pos ((abs_lt_leastNormal_iff finite).mpr small)).trans (float_mul_comm x 0.0)

theorem flush_signedZero (s : Sign) : flush (signedZero s) = signedZero s := by
  rw [flush_of_small (isFinite_signedZero s) (unpack_signedZero s ▸ id), zero_mul_signedZero]

theorem flush_zero : flush (0.0 : Float) = 0.0 := flush_signedZero .positive

theorem flush_one : flush (1.0 : Float) = 1.0 := flush_of_full (show 2 ^ 52 ≤ 2 ^ 52 from le_rfl)

theorem flush_cases (finite : isFinite x = true) :
    Full x.toModel.unpack ∧ flush x = x ∨ ∃ s, flush x = signedZero s := by
  by_cases full : Full x.toModel.unpack
  · exact .inl ⟨full, flush_of_full full⟩
  · rw [flush_of_small finite full]
    exact .inr (zero_mul_of_finite finite)

theorem flush_flush (finite : isFinite x = true) : flush (flush x) = flush x := by
  obtain ⟨-, kept⟩ | ⟨s, lost⟩ := flush_cases finite
  · rw [kept, kept]
  · rw [lost, flush_signedZero]

theorem float_sum_zero_cases (finite : isFinite x = true) :
    Full x.toModel.unpack ∧ sum 0.0 x = x ∨ sum 0.0 x = 0.0 := by
  unfold sum
  rw [flush_zero]
  -- Added to the positive zero, zeros lose their sign.
  obtain ⟨full, kept⟩ | ⟨s, lost⟩ := flush_cases finite
  · exact .inl ⟨full, by rw [kept, zero_add_of_full full, kept]⟩
  · exact .inr (by rw [lost, zero_add_signedZero, flush_zero])

theorem float_product_one (finite : isFinite x = true) : product 1.0 x = flush x := by
  unfold product
  rw [flush_one]
  obtain ⟨full, kept⟩ | ⟨s, lost⟩ := flush_cases finite
  · rw [kept, one_mul_of_full full, kept]
  · rw [lost, one_mul_signedZero, flush_signedZero]

theorem float_product_zero (finite : isFinite x = true) : ∃ s, product 0.0 x = signedZero s := by
  unfold product
  rw [flush_zero]
  obtain ⟨full, kept⟩ | ⟨s, lost⟩ := flush_cases finite
  · obtain ⟨s, zero⟩ := zero_mul_of_finite finite
    exact ⟨s, by rw [kept, zero, flush_signedZero]⟩
  · exact ⟨s, by rw [lost, zero_mul_signedZero, flush_signedZero]⟩

theorem float_sum_signedZero (finite : isFinite x = true) (s : Sign) :
    sum (sum 0.0 x) (signedZero s) = sum 0.0 x := by
  obtain ⟨full, kept⟩ | lost := float_sum_zero_cases finite
  · rw [kept, sum, flush_of_full full, flush_signedZero, add_zero_of_full full, flush_of_full full]
  · rw [lost, sum, flush_zero, flush_signedZero, zero_add_signedZero, flush_zero]

instance instUnitalFloat : Unital Float where
  finite_zero := isFinite_signedZero .positive
  sum_zero := by
    change flush (flush 0.0 + flush (signedZero .positive)) = 0.0
    rw [flush_zero, flush_signedZero, zero_add_signedZero, flush_zero]
  product_comm x y := congrArg flush (float_mul_comm _ _)
  sum_product_one {x} finite := by
    change sum 0.0 (product 1.0 x) = sum 0.0 x
    rw [float_product_one finite, sum, flush_flush finite, sum]
  sum_product_zero {x y} finite finite' := by
    change sum (sum 0.0 x) (product 0.0 y) = sum 0.0 x
    obtain ⟨s, zero⟩ := float_product_zero finite'
    rw [zero, float_sum_signedZero finite]

theorem float_exact_iff :
    Exact x ↔ isFinite x = true ∧ (x = 0.0 ∨ ¬ x.abs < Binary.leastNormal) := by
  refine and_congr_right fun finite => ?_
  rw [abs_lt_leastNormal_iff finite, not_not]
  constructor
  · intro kept
    obtain ⟨full, -⟩ | lost := float_sum_zero_cases finite
    · exact .inr full
    · exact .inl (kept.symm.trans lost)
  · rintro (rfl | full)
    · exact Unital.sum_zero
    · change flush (flush 0.0 + flush x) = x
      rw [flush_zero, flush_of_full full, zero_add_of_full full, flush_of_full full]

end Scalar

end ManifoldOpt
