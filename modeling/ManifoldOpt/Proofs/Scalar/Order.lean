import Mathlib.Data.Prod.Lex
import Mathlib.Order.Compare
import ManifoldOpt.Scalar

set_option autoImplicit false

namespace ManifoldOpt

namespace Scalar

class Ordered (α : Type) [Scalar α] : Prop where
  le_trans : ∀ {x y z : α}, x ≤ y → y ≤ z → x ≤ z
  le_total : ∀ {x y : α}, x ≤ x → y ≤ y → x ≤ y ∨ y ≤ x
  lt_iff : ∀ {x y : α}, x < y ↔ x ≤ y ∧ ¬ y ≤ x
  defined : ∀ {x y : α}, x ≤ y → x ≤ x ∧ y ≤ y

section Laws

variable {α : Type} [Scalar α]

theorem isNaN_eq_false_iff {x : α} : isNaN x = false ↔ x ≤ x := by simp [isNaN]

variable [Ordered α]

theorem lt_irrefl (x : α) : ¬ x < x := by
  rw [Ordered.lt_iff]
  exact fun h => h.2 h.1

theorem le_of_lt {x y : α} (h : x < y) : x ≤ y := (Ordered.lt_iff.mp h).1

theorem lt_of_lt_of_le {x y z : α} (first : x < y) (second : y ≤ z) : x < z := by
  obtain ⟨le, strict⟩ := Ordered.lt_iff.mp first
  exact Ordered.lt_iff.mpr
    ⟨Ordered.le_trans le second, fun back => strict (Ordered.le_trans second back)⟩

theorem lt_trans {x y z : α} (first : x < y) (second : y < z) : x < z :=
  lt_of_lt_of_le first (le_of_lt second)

theorem le_of_not_lt {x y : α} (hx : isNaN x = false) (hy : isNaN y = false) (h : ¬ x < y) :
    y ≤ x := by
  rw [isNaN_eq_false_iff] at hx hy
  cases Ordered.le_total hx hy with
  | inl le =>
    by_cases back : y ≤ x
    · exact back
    · exact absurd (Ordered.lt_iff.mpr ⟨le, back⟩) h
  | inr ge => exact ge

theorem lt_iff_not_le {x y : α} : x < y ↔ isNaN x = false ∧ isNaN y = false ∧ ¬ y ≤ x := by
  rw [isNaN_eq_false_iff, isNaN_eq_false_iff, Ordered.lt_iff]
  refine ⟨fun ⟨le, strict⟩ => ?_, fun ⟨hx, hy, strict⟩ => ?_⟩
  · exact ⟨(Ordered.defined le).1, (Ordered.defined le).2, strict⟩
  · exact ⟨(Ordered.le_total hx hy).resolve_right strict, strict⟩

theorem le_iff_not_lt {x y : α} : x ≤ y ↔ isNaN x = false ∧ isNaN y = false ∧ ¬ y < x := by
  refine ⟨fun le => ?_, fun ⟨hx, hy, strict⟩ => le_of_not_lt hy hx strict⟩
  obtain ⟨hx, hy⟩ := Ordered.defined le
  exact ⟨isNaN_eq_false_iff.mpr hx, isNaN_eq_false_iff.mpr hy, fun lt =>
    (Ordered.lt_iff.mp lt).2 le⟩

theorem isNaN_left_of_lt {x y : α} (h : x < y) : isNaN x = false :=
  isNaN_eq_false_iff.mpr (Ordered.defined (le_of_lt h)).1

theorem isNaN_right_of_lt {x y : α} (h : x < y) : isNaN y = false :=
  isNaN_eq_false_iff.mpr (Ordered.defined (le_of_lt h)).2

end Laws

open Float.Model

/-- The place of an unpacked number among all others: its sign and whether it is infinite first, then
its exponent, then its mantissa. Both zeros have one place, an undefined value has none. -/
def rank : UnpackedFloat → Option (ℤ ×ₗ ℤ ×ₗ ℤ)
  | .notANumber => none
  | .infinity .positive => some (toLex (2, toLex (0, 0)))
  | .infinity .negative => some (toLex (-2, toLex (0, 0)))
  | .zero _ => some (toLex (0, toLex (0, 0)))
  | .finite .positive m e _ => some (toLex (1, toLex (e, (m : ℤ))))
  | .finite .negative m e _ => some (toLex (-1, toLex (-e, -(m : ℤ))))

theorem compare_natCast (m n : ℕ) : compare (m : ℤ) (n : ℤ) = compare m n := by
  rcases lt_trichotomy m n with h | h | h
  · rw [compare_lt_iff_lt.mpr h, compare_lt_iff_lt.mpr (Int.ofNat_lt.mpr h)]
  · subst h
    simp
  · rw [compare_gt_iff_gt.mpr h, compare_gt_iff_gt.mpr (Int.ofNat_lt.mpr h)]

theorem compare_neg (a b : ℤ) : compare (-a) (-b) = (compare a b).swap := by
  rcases lt_trichotomy a b with h | h | h
  · rw [compare_lt_iff_lt.mpr h, compare_gt_iff_gt.mpr (Int.neg_lt_neg h), Ordering.swap]
  · subst h
    simp
  · rw [compare_gt_iff_gt.mpr h, compare_lt_iff_lt.mpr (Int.neg_lt_neg h), Ordering.swap]

theorem compare_eq_rank (a b : UnpackedFloat) :
    a.compare b = do
      let r ← rank a
      let s ← rank b
      return compare r s := by
  -- All pairs but two of the same sign are decided by sign and kind alone.
  rcases a with (_ | _) | _ | (_ | _) | ⟨(_ | _), m, e, _⟩ <;>
    rcases b with (_ | _) | _ | (_ | _) | ⟨(_ | _), n, d, _⟩ <;> try rfl
  case finite.negative.finite.negative =>
    change some _ = some ((compare (-e) (-d)).then (compare (-(m : ℤ)) (-(n : ℤ))))
    rw [compare_neg, compare_neg, compare_natCast, Ordering.swap_then]
  case finite.positive.finite.positive =>
    change some _ = some ((compare e d).then (compare (m : ℤ) (n : ℤ)))
    rw [compare_natCast]

def place (x : Float) : Option (ℤ ×ₗ ℤ ×ₗ ℤ) := rank x.toModel.unpack

theorem float_le_iff {x y : Float} : x ≤ y ↔ ∃ r ∈ place x, ∃ s ∈ place y, r ≤ s := by
  have unfolded : x ≤ y ↔ ((x.toModel.unpack.compare y.toModel.unpack).any (·.isLE)) = true := by
    change decide _ = true ↔ _
    rw [decide_eq_true_eq]
    rfl
  rw [unfolded, compare_eq_rank]
  unfold place
  cases rank x.toModel.unpack <;> cases rank y.toModel.unpack <;>
    simp [compare_le_iff_le, Ordering.isLE_iff_ne_gt]

theorem float_lt_iff {x y : Float} : x < y ↔ ∃ r ∈ place x, ∃ s ∈ place y, r < s := by
  have unfolded : x < y ↔ ((x.toModel.unpack.compare y.toModel.unpack) == some .lt) = true := by
    change decide _ = true ↔ _
    rw [decide_eq_true_eq]
    rfl
  rw [unfolded, compare_eq_rank]
  unfold place
  cases rank x.toModel.unpack <;> cases rank y.toModel.unpack <;> simp [compare_lt_iff_lt]

instance instOrderedFloat : Ordered Float where
  le_trans {x y z} first second := by
    obtain ⟨r, hr, s, hs, rs⟩ := float_le_iff.mp first
    obtain ⟨s', hs', t, ht, st⟩ := float_le_iff.mp second
    obtain rfl := Option.mem_unique hs hs'
    exact float_le_iff.mpr ⟨r, hr, t, ht, rs.trans st⟩
  le_total {x y} hx hy := by
    obtain ⟨r, hr, -⟩ := float_le_iff.mp hx
    obtain ⟨s, hs, -⟩ := float_le_iff.mp hy
    cases le_total r s with
    | inl le => exact .inl (float_le_iff.mpr ⟨r, hr, s, hs, le⟩)
    | inr ge => exact .inr (float_le_iff.mpr ⟨s, hs, r, hr, ge⟩)
  lt_iff {x y} := by
    rw [float_lt_iff, float_le_iff, float_le_iff]
    constructor
    · rintro ⟨r, hr, s, hs, rs⟩
      refine ⟨⟨r, hr, s, hs, rs.le⟩, ?_⟩
      rintro ⟨s', hs', r', hr', back⟩
      obtain rfl := Option.mem_unique hs hs'
      obtain rfl := Option.mem_unique hr hr'
      exact rs.not_ge back
    · rintro ⟨⟨r, hr, s, hs, rs⟩, strict⟩
      exact ⟨r, hr, s, hs, rs.lt_of_not_ge fun back => strict ⟨s, hs, r, hr, back⟩⟩
  defined {x y} h := by
    obtain ⟨r, hr, s, hs, -⟩ := float_le_iff.mp h
    exact ⟨float_le_iff.mpr ⟨r, hr, r, hr, le_rfl⟩, float_le_iff.mpr ⟨s, hs, s, hs, le_rfl⟩⟩

end Scalar

end ManifoldOpt
