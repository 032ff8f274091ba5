import Mathlib.LinearAlgebra.Matrix.Nondegenerate
import Mathlib.LinearAlgebra.Matrix.NonsingularInverse
import Mathlib.Tactic.FieldSimp
import Mathlib.Tactic.LinearCombination
import ManifoldOpt.Linear.Solve
import ManifoldOpt.Proofs.Scalar.Exact
import ManifoldOpt.Proofs.Tensor

/-!
Elimination with exact scalars. As long as only zero solves the system without its values, a pivot
with a leading coefficient is found in every round, and the smaller system that remains is of the
same kind, so that the unknowns it leads to solve all equations. A system with a nonsingular matrix
has no other solution.
-/

set_option autoImplicit false

namespace ManifoldOpt

open Matrix

theorem sumProducts_real (x y : List ℝ) : sumProducts x y = (List.zipWith (· * ·) x y).sum := by
  rw [List.sum_eq_foldl]
  rfl

@[simp] theorem sumProducts_nil (x : List ℝ) : sumProducts [] x = 0 := rfl

@[simp] theorem sumProducts_cons (a b : ℝ) (x y : List ℝ) :
    sumProducts (a :: x) (b :: y) = a * b + sumProducts x y := by
  simp [sumProducts_real]

@[simp] theorem sumProducts_zeros (x : List ℝ) (n : ℕ) : sumProducts x (List.replicate n 0) = 0 := by
  induction x generalizing n with
  | nil => rfl
  | cons a x ih =>
    cases n with
    | zero => rfl
    | succ n => simp [List.replicate_succ, ih]

theorem sumProducts_reduced (factor : ℝ) {x y : List ℝ} (same : x.length = y.length) (z : List ℝ) :
    sumProducts (List.zipWith (fun a b => a - factor * b) x y) z =
      sumProducts x z - factor * sumProducts y z := by
  induction x generalizing y z with
  | nil =>
    obtain rfl := List.eq_nil_of_length_eq_zero same.symm
    simp
  | cons a x ih =>
    cases y with
    | nil => simp at same
    | cons b y =>
      cases z with
      | nil => simp [sumProducts_real]
      | cons c z =>
        simp only [List.zipWith_cons_cons, sumProducts_cons, ih (by simpa using same)]
        ring

theorem sumProducts_eq_sum {n : ℕ} {x y : List ℝ} (hx : x.length = n) (hy : y.length = n) :
    sumProducts x y = ∑ i : Fin n, x.getD i 0 * y.getD i 0 := by
  have size : (List.zipWith (· * ·) x y).length = n := by simp [hx, hy]
  rw [sumProducts_real, ← Fin.sum_univ_getElem]
  refine Fintype.sum_equiv (finCongr size) _ _ fun i => ?_
  have left : i < x.length := by omega
  have right : i < y.length := by omega
  simp [left, right]

theorem row_end_le {i m : ℕ} (n : ℕ) (inside : i < m) : i * n + n ≤ m * n := by
  rw [← Nat.succ_mul]
  exact Nat.mul_le_mul_right n inside

theorem sumProducts_row {m n : ℕ} {x y : List ℝ} (rows : x.length = m * n) (full : y.length = n)
    (i : Fin m) :
    sumProducts ((x.drop (i * n)).take n) y = ∑ j : Fin n, x.getD (i * n + j) 0 * y.getD j 0 := by
  have below := row_end_le n i.isLt
  have width : ((x.drop (i * n)).take n).length = n := by
    rw [List.length_take, List.length_drop, rows]
    omega
  rw [sumProducts_eq_sum width full]
  refine Finset.sum_congr rfl fun j _ => ?_
  have inside : (i : ℕ) * n + j < x.length := by omega
  simp [List.getD_eq_getElem?_getD, inside]

theorem Scalar.abs_real (x : ℝ) : Scalar.abs x = |x| := by
  unfold Scalar.abs
  by_cases sign : x ≤ 0
  · simp [sign, abs_of_nonpos]
  · simp [sign, abs_of_pos (not_le.mp sign)]

namespace Equation

theorem choosePivot_perm (best : Equation ℝ) (rest : List (Equation ℝ)) :
    ((choosePivot best rest).1 :: (choosePivot best rest).2).Perm (best :: rest) := by
  induction rest generalizing best with
  | nil => exact .refl _
  | cons e rest ih =>
    rw [choosePivot]
    split
    · exact (List.Perm.swap _ _ _).trans ((ih e).cons best)
    · exact (List.Perm.swap _ _ _).trans (((ih best).cons e).trans (.swap _ _ _))

theorem leading_le_choosePivot (best : Equation ℝ) (rest : List (Equation ℝ)) :
    ∀ e ∈ best :: rest, |e.leading| ≤ |(choosePivot best rest).1.leading| := by
  induction rest generalizing best with
  | nil => simp [choosePivot]
  | cons e rest ih =>
    rw [choosePivot]
    simp only [Scalar.abs_real]
    split
    · rename_i larger
      have later := ih e
      have first := later e (by simp)
      simp only [List.mem_cons, forall_eq_or_imp] at later ⊢
      exact ⟨(larger.trans_le first).le, later.1, later.2⟩
    · rename_i smaller
      have later := ih best
      have first := later best (by simp)
      simp only [List.mem_cons, forall_eq_or_imp] at later ⊢
      exact ⟨later.1, (not_lt.mp smaller).trans first, later.2⟩

end Equation

/-- Without their values, the equations are solved by zeros alone. -/
def Independent (n : ℕ) (equations : List (Equation ℝ)) : Prop :=
  ∀ x : List ℝ, x.length = n → (∀ e ∈ equations, sumProducts e.coefficients x = 0) →
    x = List.replicate n 0

section Round

variable {n : ℕ} {pivot : Equation ℝ} {others : List (Equation ℝ)}

theorem Equation.coefficients_eq_cons {e : Equation ℝ} (wide : e.coefficients.length = n + 1) :
    e.coefficients = e.leading :: e.coefficients.tail ∧ e.coefficients.tail.length = n := by
  cases given : e.coefficients with
  | nil => simp [given] at wide
  | cons a x => simpa [Equation.leading, given] using wide

theorem sumProducts_eliminate {e : Equation ℝ} (hp : pivot.coefficients.length = n + 1)
    (he : e.coefficients.length = n + 1) (x : List ℝ) :
    sumProducts (pivot.eliminate e).coefficients x = sumProducts e.coefficients.tail x -
      e.leading * (1 / pivot.leading) * sumProducts pivot.coefficients.tail x := by
  obtain ⟨-, tail⟩ := Equation.coefficients_eq_cons hp
  obtain ⟨-, tail'⟩ := Equation.coefficients_eq_cons he
  exact sumProducts_reduced _ (tail'.trans tail.symm) x

theorem leading_ne_zero (wide : ∀ e ∈ pivot :: others, e.coefficients.length = n + 1)
    (largest : ∀ e ∈ pivot :: others, |e.leading| ≤ |pivot.leading|)
    (independent : Independent (n + 1) (pivot :: others)) : pivot.leading ≠ 0 := by
  intro vanishes
  -- Otherwise the first unknown would occur in no equation.
  have kernel := independent (1 :: List.replicate n 0) (by simp) fun e member => by
    obtain ⟨split, -⟩ := Equation.coefficients_eq_cons (wide e member)
    have none : e.leading = 0 := by simpa [vanishes] using largest e member
    rw [split, none]
    simp
  simp [List.replicate_succ] at kernel

theorem Independent.eliminated (wide : ∀ e ∈ pivot :: others, e.coefficients.length = n + 1)
    (nonzero : pivot.leading ≠ 0) (independent : Independent (n + 1) (pivot :: others)) :
    Independent n (others.map pivot.eliminate) := by
  intro x size solved
  have hp := wide pivot (by simp)
  -- The first unknown can be chosen so that the pivot equation holds as well.
  let first := -(sumProducts pivot.coefficients.tail x) / pivot.leading
  have kernel := independent (first :: x) (by simp [size]) fun e member => by
    obtain ⟨split, -⟩ := Equation.coefficients_eq_cons (wide e member)
    rw [split, sumProducts_cons]
    rcases List.mem_cons.mp member with rfl | other
    · change e.leading * (-(sumProducts e.coefficients.tail x) / e.leading) + _ = 0
      field_simp
      ring
    · have reduced := solved _ (List.mem_map_of_mem other)
      rw [sumProducts_eliminate hp (wide e member)] at reduced
      change e.leading * (-(sumProducts pivot.coefficients.tail x) / pivot.leading) + _ = 0
      linear_combination reduced
  simpa [List.replicate_succ] using (List.cons.inj kernel).2

theorem solved_of_eliminated (wide : ∀ e ∈ pivot :: others, e.coefficients.length = n + 1)
    (nonzero : pivot.leading ≠ 0) {known : List ℝ}
    (solved : ∀ e ∈ others.map pivot.eliminate, sumProducts e.coefficients known = e.value) :
    ∀ e ∈ pivot :: others, sumProducts e.coefficients (pivot.resolve known :: known) = e.value := by
  intro e member
  have hp := wide pivot (by simp)
  obtain ⟨split, -⟩ := Equation.coefficients_eq_cons (wide e member)
  rw [split, sumProducts_cons, Equation.resolve]
  rcases List.mem_cons.mp member with rfl | other
  · field_simp
    ring
  · have reduced := solved _ (List.mem_map_of_mem other)
    rw [sumProducts_eliminate hp (wide e member)] at reduced
    change _ = e.value - e.leading * (1 / pivot.leading) * pivot.value at reduced
    linear_combination reduced

end Round

theorem solveEquations_solves {count : ℕ} {equations : List (Equation ℝ)}
    (square : equations.length = count) (wide : ∀ e ∈ equations, e.coefficients.length = count)
    (independent : Independent count equations) :
    (solveEquations count equations).length = count ∧
      ∀ e ∈ equations, sumProducts e.coefficients (solveEquations count equations) = e.value := by
  induction count generalizing equations with
  | zero =>
    obtain rfl := List.eq_nil_of_length_eq_zero square
    simp [solveEquations]
  | succ n ih =>
    cases equations with
    | nil => simp at square
    | cons first rest =>
      rw [solveEquations]
      -- The pivot and the others are the equations in another order.
      have perm := Equation.choosePivot_perm first rest
      have largest := Equation.leading_le_choosePivot first rest
      generalize Equation.choosePivot first rest = chosen at perm largest ⊢
      obtain ⟨pivot, others⟩ := chosen
      have mem {e : Equation ℝ} : e ∈ pivot :: others ↔ e ∈ first :: rest := perm.mem_iff
      have wide' : ∀ e ∈ pivot :: others, e.coefficients.length = n + 1 := fun e member =>
        wide e (mem.mp member)
      have independent' : Independent (n + 1) (pivot :: others) := fun x size solved =>
        independent x size fun e member => solved e (mem.mpr member)
      have nonzero := leading_ne_zero wide' (fun e member => largest e (mem.mp member)) independent'
      have narrower : ∀ e ∈ others.map pivot.eliminate, e.coefficients.length = n := by
        intro e member
        obtain ⟨e, other, rfl⟩ := List.mem_map.mp member
        have hp := wide' pivot (by simp)
        have he := wide' e (by simp [other])
        simp [Equation.eliminate, hp, he]
      have fewer : (others.map pivot.eliminate).length = n := by
        have size := perm.length_eq
        simp only [List.length_cons] at size square
        simp only [List.length_map]
        omega
      obtain ⟨size, solved⟩ := ih fewer narrower (independent'.eliminated wide' nonzero)
      refine ⟨by simp [size], fun e member => ?_⟩
      exact solved_of_eliminated wide' nonzero solved e (mem.mpr member)

namespace Tensor

def toMatrix (m n : ℕ) (x : Tensor ℝ) : Matrix (Fin m) (Fin n) ℝ :=
  .of fun i j => x.entries.getD (i * n + j) 0

def column (m : ℕ) (x : Tensor ℝ) : Fin m → ℝ := fun i => x.entries.getD i 0

theorem ext_column {shape : Shape} {x y : Tensor ℝ} (hx : x.shape = shape) (hy : y.shape = shape)
    (same : x.column shape.size = y.column shape.size) : x = y := by
  have sx : x.entries.length = shape.size := by rw [x.size_eq, hx]
  have sy : y.entries.length = shape.size := by rw [y.size_eq, hy]
  refine Tensor.ext (hx.trans hy.symm) (List.ext_getElem (sx.trans sy.symm) fun i left right => ?_)
  have entry := congrFun same ⟨i, sx ▸ left⟩
  simpa [column, left, right] using entry

theorem eq_of_column {m : ℕ} {x y : Tensor ℝ} (hx : x.shape = [m]) (hy : y.shape = [m])
    (same : x.column m = y.column m) : x = y := by
  rw [← Shape.size_singleton m] at same
  exact ext_column hx hy same

end Tensor

theorem getElem_blocks {α : Type} {width count i : ℕ} {entries : List α}
    (inside : i < (blocks width count entries).length) :
    (blocks width count entries)[i] = (entries.drop (i * width)).take width := by
  induction count generalizing i entries with
  | zero => simp [blocks] at inside
  | succ count ih =>
    cases i with
    | zero => simp [blocks]
    | succ i =>
      simp only [blocks, List.getElem_cons_succ]
      rw [ih, List.drop_drop, Nat.succ_mul, Nat.add_comm]

section Linear

variable {m : ℕ} {a b : Tensor ℝ}

def rowEquations (m : ℕ) (a b : Tensor ℝ) : List (Equation ℝ) :=
  List.zipWith (fun row value => ⟨row, value⟩) (blocks m m a.entries) b.entries

theorem solveLinear_eq (ha : a.shape = [m, m]) (hb : b.shape = [m]) :
    solveLinear a b = .ok (.vector (solveEquations m (rowEquations m a b))) := by
  have rows : a.squareRows? = some (blocks m m a.entries) := by simp [Tensor.squareRows?, ha]
  have exact : (fun (row : List ℝ) (value : ℝ) =>
      Equation.mk (row.map Scalar.flush) (Scalar.flush value)) = Equation.mk := by
    funext row value
    change Equation.mk (row.map id) value = _
    rw [List.map_id]
  simp only [solveLinear, rows, hb, length_blocks, if_true, exact, rowEquations]

theorem length_rowEquations (hb : b.shape = [m]) : (rowEquations m a b).length = m := by
  have sb : b.entries.length = m := by rw [b.size_eq, hb, Shape.size_singleton]
  simp [rowEquations, sb]

theorem length_of_mem_rowEquations (ha : a.shape = [m, m]) {e : Equation ℝ}
    (member : e ∈ rowEquations m a b) : e.coefficients.length = m := by
  obtain ⟨i, inside, rfl⟩ := List.getElem_of_mem member
  have sa : m * m ≤ a.entries.length := by rw [a.size_eq, ha]; simp
  simp only [rowEquations, List.getElem_zipWith]
  exact length_of_mem_blocks sa (List.getElem_mem _)

variable (ha : a.shape = [m, m]) (hb : b.shape = [m])

include ha hb

theorem rowEquations_iff {P : ℝ → ℝ → Prop} {x : List ℝ} (hx : x.length = m) :
    (∀ e ∈ rowEquations m a b, P (sumProducts e.coefficients x) e.value) ↔
      ∀ i, P ((a.toMatrix m m *ᵥ fun j => x.getD j 0) i) (b.column m i) := by
  have size : (rowEquations m a b).length = m := length_rowEquations hb
  have sa : a.entries.length = m * m := by rw [a.size_eq, ha]; simp
  have sb : b.entries.length = m := by rw [b.size_eq, hb, Shape.size_singleton]
  have row (i : Fin m) : ∃ e, ∃ inside : i < (rowEquations m a b).length,
      (rowEquations m a b)[i] = e ∧ e.value = b.column m i ∧
      sumProducts e.coefficients x = (a.toMatrix m m *ᵥ fun j => x.getD j 0) i := by
    refine ⟨_, i.isLt.trans_eq size.symm, rfl, ?_, ?_⟩
    · simp [rowEquations, Tensor.column, sb]
    · have block : (rowEquations m a b)[i].coefficients = (a.entries.drop (i * m)).take m := by
        simp only [rowEquations, Fin.getElem_fin, List.getElem_zipWith]
        exact getElem_blocks _
      rw [block]
      exact sumProducts_row sa hx i
  constructor
  · intro all i
    obtain ⟨e, inside, rfl, value, products⟩ := row i
    rw [← value, ← products]
    exact all _ (List.getElem_mem _)
  · intro all e member
    obtain ⟨i, inside, rfl⟩ := List.getElem_of_mem member
    obtain ⟨e, _, rfl, value, products⟩ := row ⟨i, size ▸ inside⟩
    have holds := all ⟨i, size ▸ inside⟩
    rw [← value, ← products] at holds
    exact holds

theorem solveLinear_of_regular (regular : (a.toMatrix m m).det ≠ 0) :
    ∃ x, solveLinear a b = .ok x ∧ x.shape = [m] ∧
      a.toMatrix m m *ᵥ x.column m = b.column m := by
  have independent : Independent m (rowEquations m a b) := by
    intro x hx kernel
    have vanishes := (rowEquations_iff ha hb (P := fun p _ => p = 0) hx).mp kernel
    have zero := eq_zero_of_mulVec_eq_zero regular (funext vanishes)
    refine List.ext_getElem (by simp [hx]) fun i inside _ => ?_
    have entry := congrFun zero ⟨i, hx ▸ inside⟩
    simpa [inside] using entry
  obtain ⟨size, solved⟩ := solveEquations_solves (length_rowEquations hb)
    (fun e member => length_of_mem_rowEquations ha member) independent
  refine ⟨_, solveLinear_eq ha hb, by simp [Tensor.vector, size], ?_⟩
  exact funext ((rowEquations_iff ha hb (P := (· = ·)) size).mp solved)

theorem solveLinear_transformed {A : Matrix (Fin m) (Fin m) ℝ} (invertible : IsUnit A)
    (regular : (a.toMatrix m m).det ≠ 0) {a' b' : Tensor ℝ} (ha' : a'.shape = [m, m])
    (hb' : b'.shape = [m]) (matrix : a'.toMatrix m m = A * a.toMatrix m m)
    (value : b'.column m = A *ᵥ b.column m) : solveLinear a b = solveLinear a' b' := by
  have unit : A.det ≠ 0 := ((isUnit_iff_isUnit_det A).mp invertible).ne_zero
  have regular' : (a'.toMatrix m m).det ≠ 0 := by
    rw [matrix, det_mul]
    exact mul_ne_zero unit regular
  obtain ⟨x, solved, hx, equal⟩ := solveLinear_of_regular ha hb regular
  obtain ⟨x', solved', hx', equal'⟩ := solveLinear_of_regular ha' hb' regular'
  -- Both solve the first system, which has one solution only.
  have both : a.toMatrix m m *ᵥ (x.column m - x'.column m) = 0 := by
    rw [matrix, value, ← mulVec_mulVec, ← sub_eq_zero, ← mulVec_sub] at equal'
    have solves := sub_eq_zero.mp (eq_zero_of_mulVec_eq_zero unit equal')
    rw [mulVec_sub, equal, solves, sub_self]
  have same := sub_eq_zero.mp (eq_zero_of_mulVec_eq_zero regular both)
  rw [solved, solved', Tensor.eq_of_column hx hx' same]

end Linear

end ManifoldOpt
