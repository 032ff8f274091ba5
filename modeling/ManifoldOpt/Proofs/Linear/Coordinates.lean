import ManifoldOpt.Manifold.Euclidean
import ManifoldOpt.Proofs.Linear.Elimination

set_option autoImplicit false

namespace ManifoldOpt

open Matrix

namespace Tensor

variable {m n : ℕ} {shape : Shape} {a b c v : Tensor ℝ}

theorem position_div {i j n : ℕ} (inside : j < n) : (i * n + j) / n = i := by
  rw [Nat.mul_comm, Nat.mul_add_div (by omega), Nat.div_eq_of_lt inside, Nat.add_zero]

theorem position_mod {i j n : ℕ} (inside : j < n) : (i * n + j) % n = j := by
  rw [Nat.mul_comm, Nat.mul_add_mod, Nat.mod_eq_of_lt inside]

theorem toMatrix_tabulate (size : shape.size = m * n) (f : ℕ → ℝ) :
    (tabulate shape f).toMatrix m n = .of fun i j => f (i * n + j) := by
  ext i j
  have below := row_end_le n i.isLt
  have inside : (i : ℕ) * n + j < m * n := by omega
  simp [toMatrix, tabulate, size, List.getElem?_range inside]

theorem toMatrix_diagonal (size : shape.size = m * m) :
    (tabulate shape fun i => if i / m = i % m then 1 else 0).toMatrix m m =
      (1 : Matrix _ _ ℝ) := by
  rw [toMatrix_tabulate size]
  ext i j
  simp [position_div j.isLt, Nat.mod_eq_of_lt j.isLt, Matrix.one_apply, Fin.ext_iff]

theorem toMatrix_identity (m : ℕ) : (identity m).toMatrix m m = (1 : Matrix _ _ ℝ) :=
  toMatrix_diagonal (by simp)

theorem toMatrix_standardBasis (shape : Shape) :
    (standardBasis shape).toMatrix shape.size shape.size = (1 : Matrix _ _ ℝ) :=
  toMatrix_diagonal rfl

theorem column_tabulate {f : ℕ → ℝ} (size : shape.size = n) :
    (tabulate shape f).column n = fun i : Fin n => f i := by
  subst size
  funext i
  simp [column, tabulate]

theorem coordinates_mulVec (some : m ≠ 0) (axes : b.shape = m :: shape)
    (full : v.entries.length = shape.size) :
    ∃ c, coordinates b v.ravel = .ok c ∧ c.shape = [m] ∧
      c.column m = b.toMatrix m shape.size *ᵥ v.column shape.size := by
  obtain ⟨m, rfl⟩ := Nat.exists_eq_succ_of_ne_zero some
  have wide : shape.size = v.ravel.entries.length := full.symm
  refine ⟨_, by simp only [coordinates, axes, if_pos wide]; rfl, rfl, ?_⟩
  rw [column_tabulate (Shape.size_singleton _)]
  funext i
  have rows : b.entries.length = (m + 1) * shape.size := by rw [b.size_eq, axes]; rfl
  exact sumProducts_row rows full i

theorem apply_mulVec (ha : a.shape = [m, n]) (hv : v.shape = [n]) :
    ∃ w, a.apply v = .ok w ∧ w.shape = [m] ∧ w.column m = a.toMatrix m n *ᵥ v.column n := by
  refine ⟨_, by simp only [apply, ha, hv, List.reverse_cons, List.reverse_nil, List.nil_append,
    List.singleton_append, if_true]; rfl, rfl, ?_⟩
  have full : v.entries.length = n := by rw [v.size_eq, hv, Shape.size_singleton]
  have rows : a.entries.length = m * n := by rw [a.size_eq, ha]; simp
  rw [column_tabulate (Shape.size_singleton _)]
  funext i
  exact sumProducts_row rows full i

theorem combine_vecMul (hc : c.shape = [m]) (axes : b.shape = m :: shape) :
    ∃ v, combine c b = .ok v ∧ v.shape = shape ∧
      v.column shape.size = c.column m ᵥ* b.toMatrix m shape.size := by
  refine ⟨_, by simp only [combine, hc, axes, List.reverse_singleton, if_true]; rfl, rfl, ?_⟩
  have full : c.entries.length = m := by rw [c.size_eq, hc, Shape.size_singleton]
  rw [column_tabulate (by rfl)]
  funext j
  rw [Nat.div_eq_of_lt j.isLt, Nat.mod_eq_of_lt j.isLt, Nat.zero_mul, List.drop_zero,
    List.take_of_length_le full.le, sumProducts_eq_sum full (by simp)]
  refine Finset.sum_congr rfl fun i _ => ?_
  simp [column, toMatrix]

theorem slices_row (axes : b.shape = m :: shape) :
    ∃ vectors, b.slices = .ok vectors ∧ vectors.length = m ∧ ∀ (i : Fin m) v,
      vectors[(i : ℕ)]? = some v →
        v.shape = shape ∧ v.column shape.size = b.toMatrix m shape.size i := by
  obtain ⟨axes', entries, size⟩ := b
  subst axes
  refine ⟨_, rfl, by simp, fun i v given => ?_⟩
  simp only [List.getElem?_map, Option.map_eq_some_iff] at given
  obtain ⟨block, found, rfl⟩ := given
  have taken := congrArg (Option.map Subtype.val) found
  rw [← List.getElem?_map, List.attach_map_subtype_val, Option.map_some,
    List.getElem?_eq_some_iff] at taken
  obtain ⟨inside, row⟩ := taken
  rw [getElem_blocks] at row
  refine ⟨rfl, funext fun j => ?_⟩
  simp [column, toMatrix, ← row, List.getD_eq_getElem?_getD]

end Tensor

end ManifoldOpt
