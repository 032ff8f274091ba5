import Mathlib.Analysis.SpecialFunctions.Complex.Arg
import Mathlib.Analysis.SpecialFunctions.Pow.Real
import Mathlib.Analysis.SpecialFunctions.Trigonometric.Arctan
import ManifoldOpt.Constants
import ManifoldOpt.Parameter
import ManifoldOpt.Proofs.Scalar.Order

set_option autoImplicit false

namespace ManifoldOpt

namespace Scalar

noncomputable instance instReal : Scalar ℝ where
  toAdd := inferInstance
  toSub := inferInstance
  toMul := inferInstance
  toDiv := inferInstance
  toNeg := inferInstance
  toZero := inferInstance
  toOne := inferInstance
  toLT := inferInstance
  toLE := inferInstance
  toOfScientific := inferInstance
  decidableLT := Classical.decRel _
  decidableLE := Classical.decRel _
  ofInt n := n
  sqrt := Real.sqrt
  sin := Real.sin
  cos := Real.cos
  arctan := Real.arctan
  atan2 y x := Complex.arg ⟨x, y⟩
  pow := Real.rpow
  floor x := ⌊x⌋
  flush x := x

instance instOrderedReal : Ordered ℝ where
  le_trans first second := first.trans second
  le_total _ _ := LinearOrder.le_total _ _
  lt_iff := lt_iff_le_not_ge
  defined _ := ⟨le_rfl, le_rfl⟩

section Laws

variable (x y : ℝ)

@[simp] theorem sum_real : sum x y = x + y := rfl

@[simp] theorem difference_real : difference x y = x - y := rfl

@[simp] theorem product_real : product x y = x * y := rfl

@[simp] theorem quotient_real : quotient x y = x / y := rfl

@[simp] theorem square_real : square x = x * x := rfl

@[simp] theorem sqrt_real : sqrt x = √x := rfl

@[simp] theorem isNaN_real : isNaN x = false := isNaN_eq_false_iff.mpr (le_refl x)

@[simp] theorem isFinite_real : isFinite x = true := by simp [isFinite]

end Laws

end Scalar

theorem Tolerance.epsilon_pos : (0 : ℝ) < Tolerance.epsilon := by norm_num [Tolerance.epsilon]

namespace Number

theorem value_of_int? {x : Number ℝ} {n : ℤ} (whole : x.int? = some n) : x.value = n := by
  cases x with
  | bool b =>
    obtain rfl := Option.some.inj whole
    cases b <;> simp [value]
  | int m =>
    obtain rfl := Option.some.inj whole
    rfl
  | real x => cases whole

theorem lt_iff {x y : Number ℝ} : x.lt y = true ↔ x.value < y.value := by
  unfold lt
  cases hx : x.int? with
  | some m =>
    cases hy : y.int? with
    | some n => simp [value_of_int? hx, value_of_int? hy]
    | none =>
      -- A whole number is compared with a real one by rounding the latter up.
      simp only [belowScalar, Scalar.isFinite_real, if_true, decide_eq_true_eq, value_of_int? hx]
      change m < -⌊-y.value⌋ ↔ _
      rw [Int.floor_neg, neg_neg, Int.lt_ceil]
  | none =>
    cases hy : y.int? with
    | some n =>
      simp only [scalarBelow, Scalar.isFinite_real, if_true, decide_eq_true_eq, value_of_int? hy]
      exact Int.floor_lt
    | none => simp

theorem le_iff {x y : Number ℝ} : x.le y = true ↔ x.value ≤ y.value := by
  unfold le
  cases hx : x.int? with
  | some m =>
    cases hy : y.int? with
    | some n => simp [value_of_int? hx, value_of_int? hy]
    | none =>
      simp only [atMostScalar, Scalar.isFinite_real, if_true, decide_eq_true_eq, value_of_int? hx]
      exact Int.le_floor
  | none =>
    cases hy : y.int? with
    | some n =>
      simp only [scalarAtMost, Scalar.isFinite_real, if_true, decide_eq_true_eq, value_of_int? hy]
      change -⌊-x.value⌋ ≤ n ↔ _
      rw [Int.floor_neg, neg_neg, Int.ceil_le]
    | none => simp

theorem toScalar_real (x : Number ℝ) : x.toScalar = .ok x.value := by
  cases x with
  | bool b => simp [toScalar]
  | int n => simp [toScalar]
  | real x => rfl

end Number

namespace Scalar

/-- Multiples by one and by zero are those of real numbers, up to what arrays make of a value that
they add to nothing. -/
class Unital (α : Type) [Scalar α] : Prop where
  finite_zero : isFinite (0 : α) = true
  sum_zero : sum (0 : α) 0 = 0
  product_comm : ∀ x y : α, product x y = product y x
  sum_product_one : ∀ {x : α}, isFinite x = true → sum 0 (product 1 x) = sum 0 x
  sum_product_zero : ∀ {x y : α}, isFinite x = true → isFinite y = true →
    sum (sum 0 x) (product 0 y) = sum 0 x

instance instUnitalReal : Unital ℝ where
  finite_zero := isFinite_real 0
  sum_zero := by simp
  product_comm := mul_comm
  sum_product_one _ := by simp
  sum_product_zero _ _ := by simp

def Exact {α : Type} [Scalar α] (x : α) : Prop := isFinite x = true ∧ sum 0 x = x

theorem exact_real (x : ℝ) : Exact x := ⟨isFinite_real x, by simp⟩

end Scalar

end ManifoldOpt
