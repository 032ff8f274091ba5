import ManifoldOpt.Proofs.Coupling
import ManifoldOpt.Proofs.Linear.StandardBasis

set_option autoImplicit false

namespace ManifoldOpt

open Matrix

variable {m : ℕ} {A : Matrix (Fin m) (Fin m) ℝ}

namespace Tensor

variable {x y : Tensor ℝ}

/-- The entries of `y` are the matrix times those of `x`. -/
structure Image (A : Matrix (Fin m) (Fin m) ℝ) (x y : Tensor ℝ) : Prop where
  source : x.entries.length = m
  target : y.entries.length = m
  column : y.column m = A *ᵥ x.column m

theorem column_scale (c : ℝ) : (x.scale c).column m = c • x.column m := by
  funext i
  by_cases inside : (i : ℕ) < x.entries.length
  · simp [column, scale, inside]
  · simp [column, scale, Nat.not_lt.mp inside]

theorem scale_scale (x : Tensor ℝ) (a b : ℝ) : (x.scale a).scale b = x.scale (b * a) := by
  have same : ((x.scale a).scale b).column x.shape.size = (x.scale (b * a)).column x.shape.size := by
    rw [column_scale, column_scale, column_scale, smul_smul]
  exact ext_column rfl rfl same

theorem Image.scale (image : Image A x y) (c : ℝ) : Image A (x.scale c) (y.scale c) where
  source := (List.length_map _).trans image.source
  target := (List.length_map _).trans image.target
  column := by rw [column_scale, column_scale, image.column, mulVec_smul]

structure CoordinateImage (A : Matrix (Fin m) (Fin m) ℝ) (c d : Tensor ℝ) : Prop where
  source : c.shape = [m]
  target : d.shape = [m]
  column : d.column m = A *ᵥ c.column m

theorem Image.coordinates (image : Image A x y) :
    Outcome.Agree (CoordinateImage A) (Tensor.coordinates (standardBasis [m]) x.ravel)
      (Tensor.coordinates (standardBasis [m]) y.ravel) := by
  by_cases entries : m = 0
  · -- Without fiber coordinates neither side has any to give.
    subst entries
    exact .error .divisionByZero
  · have size := Shape.size_singleton m
    have nonempty : Shape.size [m] ≠ 0 := size.trans_ne entries
    rw [coordinates_standardBasis_exact nonempty (image.source.trans size.symm) (exact_real x),
      coordinates_standardBasis_exact nonempty (image.target.trans size.symm) (exact_real y)]
    have row (z : Tensor ℝ) (full : z.entries.length = m) : z.ravel.shape = [m] :=
      congrArg (fun k => [k]) full
    exact .ok ⟨row x image.source, row y image.target, image.column⟩

theorem columns_of_shape {xs : List (Tensor ℝ)} {n : ℕ} (count : xs.length = n + 1)
    (shapes : ∀ x ∈ xs, x.shape = [m]) :
    ∃ a, columns xs = .ok a ∧ a.shape = [m, n + 1] ∧
      ∀ (j : Fin (n + 1)) x, xs[(j : ℕ)]? = some x →
        (a.toMatrix m (n + 1)).col j = x.column m := by
  cases xs with
  | nil => simp at count
  | cons first rest =>
    obtain rfl : rest.length = n := by simpa using count
    have head : first.shape = [m] := shapes first (by simp)
    have tail : rest.all (·.shape = [m]) = true := by
      simp only [List.all_eq_true, decide_eq_true_eq]
      exact fun x member => shapes x (by simp [member])
    refine ⟨_, by simp only [columns, head, tail, if_true]; rfl, rfl, fun j x given => ?_⟩
    funext i
    have below := row_end_le (rest.length + 1) i.isLt
    have inside : (i : ℕ) * (rest.length + 1) + j < m * (rest.length + 1) := by omega
    simp [toMatrix, tabulate, column, List.getElem?_range inside, position_div j.isLt,
      position_mod j.isLt, given]

structure MatrixImage (A : Matrix (Fin m) (Fin m) ℝ) (n : ℕ) (a b : Tensor ℝ) : Prop where
  source : a.shape = [m, n]
  target : b.shape = [m, n]
  columns : ∀ j, (b.toMatrix m n).col j = A *ᵥ (a.toMatrix m n).col j

theorem columns_agree {xs ys : List (Tensor ℝ)} (related : List.Forall₂ (CoordinateImage A) xs ys) :
    Outcome.Agree (MatrixImage A xs.length) (columns xs) (columns ys) := by
  have same := related.length_eq
  have pair (j : ℕ) (left : j < xs.length) (right : j < ys.length) :
      CoordinateImage A xs[j] ys[j] := related.get left right
  cases count : xs.length with
  | zero =>
    obtain rfl := List.eq_nil_of_length_eq_zero count
    cases related
    exact .error .missingArray
  | succ n =>
    have count' : ys.length = n + 1 := same.symm.trans count
    obtain ⟨a, made, ha, left⟩ := columns_of_shape (m := m) count fun x member => by
      obtain ⟨j, inside, rfl⟩ := List.getElem_of_mem member
      exact (pair j inside (by omega)).source
    obtain ⟨b, made', hb, right⟩ := columns_of_shape (m := m) count' fun y member => by
      obtain ⟨j, inside, rfl⟩ := List.getElem_of_mem member
      exact (pair j (by omega) inside).target
    rw [made, made']
    refine .ok ⟨ha, hb, fun j => ?_⟩
    have inside : (j : ℕ) < xs.length := by omega
    have inside' : (j : ℕ) < ys.length := by omega
    rw [left j xs[j] (List.getElem?_eq_getElem inside),
      right j ys[j] (List.getElem?_eq_getElem inside')]
    exact (pair j inside inside').column

theorem MatrixImage.square {a b : Tensor ℝ} (image : MatrixImage A m a b) :
    b.toMatrix m m = A * a.toMatrix m m :=
  Matrix.ext fun i j => congrFun (image.columns j) i

end Tensor

end ManifoldOpt
