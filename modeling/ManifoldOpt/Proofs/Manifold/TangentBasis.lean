import Mathlib.Tactic.Module
import ManifoldOpt.Proofs.Manifold.Frame

/-!
Tangent bases on the sphere. With exact scalars the reflection that exchanges a point and the pole
has the point as its last row. The other rows span the vectors orthogonal to it, so that coordinates
lose nothing but what a projection takes away. Close to the pole the identity takes the place of the
reflection, and its rows are tangent only up to the root of the tolerance.
-/

set_option autoImplicit false

namespace ManifoldOpt

open Matrix
open scoped RealInnerProductSpace

namespace Tensor

variable {m : ℕ} {x y : Tensor ℝ}

theorem inner_eq_dotProduct (hx : x.shape = [m]) (hy : y.shape = [m]) :
    ⟪x.toVector [m], y.toVector [m]⟫ = x.column m ⬝ᵥ y.column m := by
  have left : x.entries.length = m := by rw [x.size_eq, hx, Shape.size_singleton]
  have right : y.entries.length = m := by rw [y.size_eq, hy, Shape.size_singleton]
  rw [inner_toVector hx hy, ← sumProducts_real, sumProducts_eq_sum left right]
  rfl

theorem norm_sq_eq_dotProduct (hx : x.shape = [m]) :
    ‖x.toVector [m]‖ ^ 2 = x.column m ⬝ᵥ x.column m := by
  rw [← real_inner_self_eq_norm_sq, inner_eq_dotProduct hx hx]

end Tensor

namespace Sphere

/-- The rows of a matrix are an orthonormal basis of the vectors orthogonal to `X`. -/
structure Completes {m : ℕ} (B : Matrix (Fin m) (Fin (m + 1)) ℝ) (X : Fin (m + 1) → ℝ) : Prop where
  orthonormal : B * Bᵀ = 1
  complete : Bᵀ * B = 1 - vecMulVec X X
  tangent : B *ᵥ X = 0

theorem Completes.of_last {m : ℕ} {H : Matrix (Fin (m + 1)) (Fin (m + 1)) ℝ}
    (orthogonal : H * Hᵀ = 1) : Completes (H.submatrix Fin.castSucc id) (H (Fin.last m)) where
  orthonormal := leading_orthonormal orthogonal
  complete := by
    have inverse : Hᵀ * H = 1 := mul_eq_one_comm.mp orthogonal
    ext i j
    have entry := congrFun (congrFun inverse i) j
    rw [mul_apply, Fin.sum_univ_castSucc] at entry
    rw [Matrix.sub_apply, ← entry, mul_apply, vecMulVec_apply]
    simp
  tangent := by
    funext i
    have entry := congrFun (congrFun orthogonal i.castSucc) (Fin.last m)
    rwa [one_apply_ne (Fin.castSucc_ne_last i)] at entry

section Pole

variable {m : ℕ} {X : Fin (m + 1) → ℝ}

theorem column_pole (m : ℕ) : (pole m).column (m + 1) = Pi.single (Fin.last m) 1 := by
  funext i
  have below : (i : ℕ) < m + 1 := i.isLt
  simp [Tensor.column, pole, Tensor.tabulate, below, Pi.single_apply, Fin.ext_iff]

variable (unit : X ⬝ᵥ X = 1)

include unit

theorem gap_sq : (X - (pole m).column (m + 1)) ⬝ᵥ (X - (pole m).column (m + 1)) =
    2 * (1 - X (Fin.last m)) := by
  rw [column_pole, sub_dotProduct, dotProduct_sub, dotProduct_sub, unit, dotProduct_single,
    single_dotProduct, single_dotProduct, Pi.single_eq_same]
  ring

theorem reflection_last (regular : Tolerance.epsilon ≤
      (X - (pole m).column (m + 1)) ⬝ᵥ (X - (pole m).column (m + 1)) ∨
    X = (pole m).column (m + 1)) :
    reflection (X - (pole m).column (m + 1)) (Fin.last m) = X := by
  unfold reflection
  rcases regular with away | same
  · -- The squared gap is twice that of the last entries: the last row is the pole plus the gap.
    have square := gap_sq unit
    have nonzero : 1 - X (Fin.last m) ≠ 0 := by
      intro vanishes
      rw [square, vanishes, mul_zero] at away
      exact not_lt.mpr away Tolerance.epsilon_pos
    rw [if_neg (not_lt.mpr away), square, column_pole]
    funext j
    have unit_entry : (1 : Matrix (Fin (m + 1)) (Fin (m + 1)) ℝ) (Fin.last m) j =
        (Pi.single (Fin.last m) 1 : Fin (m + 1) → ℝ) j := by
      rw [Matrix.one_apply, Pi.single_apply]
      simp [eq_comm]
    simp only [Matrix.sub_apply, Matrix.smul_apply, vecMulVec_apply, Pi.sub_apply, unit_entry,
      Pi.single_eq_same, smul_eq_mul]
    field_simp
    ring
  · have vanishes : X - (pole m).column (m + 1) = 0 := sub_eq_zero.mpr same
    rw [vanishes, dotProduct_zero, if_pos Tolerance.epsilon_pos, same, column_pole]
    funext j
    simp [Matrix.one_apply, Pi.single_apply, eq_comm]

end Pole

theorem gap_eq_dotProduct {m : ℕ} {x : Tensor ℝ} (hx : x.shape = [m + 1]) :
    ‖x.toVector [m + 1] - (pole m).toVector [m + 1]‖ ^ 2 =
      (x.column (m + 1) - (pole m).column (m + 1)) ⬝ᵥ
        (x.column (m + 1) - (pole m).column (m + 1)) := by
  obtain ⟨w, -, hw, vector⟩ := Tensor.sub_of_shape (y := pole m) hx rfl
  rw [← vector, Tensor.norm_sq_eq_dotProduct hw, Tensor.column_eq_toVector _ w, vector]
  rfl

theorem Point.column_unit {m : ℕ} {x : Tensor ℝ} (hx : Point m x) :
    x.column (m + 1) ⬝ᵥ x.column (m + 1) = 1 := by
  rw [← Tensor.norm_sq_eq_dotProduct hx.shape, hx.unit, one_pow]

theorem gap_of_point {m : ℕ} {x : Tensor ℝ} (hx : Point m x) :
    ‖x.toVector [m + 1] - (pole m).toVector [m + 1]‖ ^ 2 = 2 * (1 - x.entries.getD m 0) := by
  rw [gap_eq_dotProduct hx.shape, gap_sq hx.column_unit]
  rfl

/-- Points that are not so close to the pole that the identity takes the place of the reflection, and
the pole itself. -/
def Regular (n : ℕ) (x : Tensor ℝ) : Prop :=
  Tolerance.epsilon ≤ ‖x.toVector [n + 1] - (pole n).toVector [n + 1]‖ ^ 2 ∨ x = pole n

theorem Regular.of_last {m : ℕ} {x : Tensor ℝ} (hx : Point m x)
    (away : Tolerance.epsilon ≤ 2 * (1 - x.entries.getD m 0)) : Regular m x :=
  .inl (by rwa [gap_of_point hx])

theorem basis_completes {n : ℕ} {x b : Tensor ℝ} (hx : Point (n + 1) x)
    (regular : Regular (n + 1) x) (rows : b.toMatrix (n + 1) (n + 2) =
      (reflection (x.column (n + 2) - (pole (n + 1)).column (n + 2))).submatrix Fin.castSucc id) :
    Completes (b.toMatrix (n + 1) (n + 2)) (x.column (n + 2)) := by
  have last := reflection_last hx.column_unit
    (regular.imp (fun away => gap_eq_dotProduct hx.shape ▸ away) (congrArg _))
  have completes := Completes.of_last (reflection_mul_transpose
    (x.column (n + 2) - (pole (n + 1)).column (n + 2)))
  rwa [last, ← rows] at completes

section Coordinates

variable {n : ℕ} {x b v c : Tensor ℝ} (hx : x.shape = [n + 2]) (given : basis (n + 1) x = .ok b)
  (axes : b.shape = [n + 1, n + 2])

include given axes

theorem coordinates_of_basis (hv : v.shape = [n + 2]) :
    ∃ c, (sphere (n + 1)).coordinates x v none = .ok c ∧ c.shape = [n + 1] ∧
      c.column (n + 1) = b.toMatrix (n + 1) (n + 2) *ᵥ v.column (n + 2) := by
  have size := Shape.size_singleton (n + 2)
  have full : v.entries.length = Shape.size [n + 2] := by rw [v.size_eq, hv]
  obtain ⟨c, taken, hc, column⟩ := Tensor.coordinates_mulVec (Nat.succ_ne_zero n) axes full
  rw [size] at column
  exact ⟨c, Outcome.bind_eq_ok.mpr ⟨b, given, taken⟩, hc, column⟩

theorem vector_of_basis (hc : c.shape = [n + 1]) :
    ∃ v, (sphere (n + 1)).vector x c none = .ok v ∧ v.shape = [n + 2] ∧
      v.column (n + 2) = c.column (n + 1) ᵥ* b.toMatrix (n + 1) (n + 2) := by
  have size := Shape.size_singleton (n + 2)
  obtain ⟨v, combined, hv, column⟩ := Tensor.combine_vecMul hc axes
  rw [size] at column
  exact ⟨v, Outcome.bind_eq_ok.mpr ⟨b, given, combined⟩, hv, column⟩

variable (completes : Completes (b.toMatrix (n + 1) (n + 2)) (x.column (n + 2)))

include hx completes

theorem vector_coordinates (hv : v.shape = [n + 2]) :
    ∃ c w, (sphere (n + 1)).coordinates x v none = .ok c ∧ c.shape = [n + 1] ∧
      (sphere (n + 1)).vector x c none = .ok w ∧ (sphere (n + 1)).project x v = .ok w := by
  obtain ⟨c, taken, hc, coordinates⟩ := coordinates_of_basis given axes hv
  obtain ⟨w, combined, hw, vector⟩ := vector_of_basis given axes hc
  obtain ⟨w', projected, hw', along⟩ := project_of_shape hx hv
  have same : w' = w := by
    refine Tensor.eq_of_column hw' hw ?_
    have left : w'.column (n + 2) = v.column (n + 2) -
        (x.column (n + 2) ⬝ᵥ v.column (n + 2)) • x.column (n + 2) := by
      rw [Tensor.column_eq_toVector _ w', along, Tensor.inner_eq_dotProduct hx hv]
      rfl
    rw [left, vector, coordinates, ← mulVec_transpose, mulVec_mulVec, completes.complete,
      sub_mulVec, one_mulVec, vecMulVec_mulVec, op_smul_eq_smul]
  exact ⟨c, w, taken, hc, combined, same ▸ projected⟩

theorem tangent_of_coordinates (hc : c.shape = [n + 1]) :
    ∃ v, (sphere (n + 1)).vector x c none = .ok v ∧ Tangent (n + 1) x v ∧
      ‖v.toVector [n + 2]‖ = ‖c.toVector [n + 1]‖ ∧
      (sphere (n + 1)).coordinates x v none = .ok c := by
  obtain ⟨v, combined, hv, vector⟩ := vector_of_basis given axes hc
  obtain ⟨d, taken, hd, coordinates⟩ := coordinates_of_basis given axes hv
  have same : d = c := by
    refine Tensor.eq_of_column hd hc ?_
    rw [coordinates, vector, ← mulVec_transpose, mulVec_mulVec, completes.orthonormal, one_mulVec]
  have square : ‖v.toVector [n + 2]‖ ^ 2 = ‖c.toVector [n + 1]‖ ^ 2 := by
    rw [Tensor.norm_sq_eq_dotProduct hv, Tensor.norm_sq_eq_dotProduct hc]
    nth_rewrite 1 [vector]
    rw [← dotProduct_mulVec, ← coordinates, same]
  refine ⟨v, combined, ⟨hx, hv, ?_⟩, ?_, same ▸ taken⟩
  · rw [Tensor.inner_eq_dotProduct hx hv, dotProduct_comm, vector, ← dotProduct_mulVec,
      completes.tangent, dotProduct_zero]
  · exact (sq_eq_sq₀ (norm_nonneg _) (norm_nonneg _)).mp square

theorem coordinates_of_tangent (hv : Tangent (n + 1) x v) :
    ∃ c, (sphere (n + 1)).coordinates x v none = .ok c ∧ c.shape = [n + 1] ∧
      ‖c.toVector [n + 1]‖ = ‖v.toVector [n + 2]‖ ∧
      (sphere (n + 1)).vector x c none = .ok v := by
  obtain ⟨c, w, taken, hc, combined, projected⟩ :=
    vector_coordinates hx given axes completes hv.vector
  obtain ⟨w', projected', hw, along⟩ := project_of_shape hx hv.vector
  obtain rfl := Except.ok.inj (projected'.symm.trans projected)
  -- Nothing is projected away from a tangent vector.
  have same : w' = v := by
    refine Tensor.eq_of_toVector hw hv.vector ?_
    rw [along, hv.orthogonal, zero_smul, sub_zero]
  obtain ⟨u, combined', -, length, -⟩ := tangent_of_coordinates hx given axes completes hc
  obtain rfl := Except.ok.inj (combined'.symm.trans combined)
  exact ⟨c, taken, hc, by rw [← length, same], same ▸ combined⟩

end Coordinates

/-- The bases of the sphere are orthonormal. Away from the pole, and at the pole itself, coordinates
keep what the projection keeps, and are an isometry of the tangent space onto the arrays of as many
numbers as the sphere has dimensions. -/
theorem coordinates_isometry {n : ℕ} {x : Tensor ℝ} (hx : Point (n + 1) x) :
    ∃ b, (sphere (n + 1)).basis x = .ok b ∧ b.shape = [n + 1, n + 2] ∧
      b.toMatrix (n + 1) (n + 2) * (b.toMatrix (n + 1) (n + 2))ᵀ = 1 ∧
      (Regular (n + 1) x →
        (∀ {v}, v.shape = [n + 2] → ∃ c w,
          (sphere (n + 1)).coordinates x v none = .ok c ∧ c.shape = [n + 1] ∧
          (sphere (n + 1)).vector x c none = .ok w ∧ (sphere (n + 1)).project x v = .ok w) ∧
        (∀ {v}, Tangent (n + 1) x v → ∃ c,
          (sphere (n + 1)).coordinates x v none = .ok c ∧ c.shape = [n + 1] ∧
          ‖c.toVector [n + 1]‖ = ‖v.toVector [n + 2]‖ ∧
          (sphere (n + 1)).vector x c none = .ok v) ∧
        ∀ {c}, c.shape = [n + 1] → ∃ v,
          (sphere (n + 1)).vector x c none = .ok v ∧ Tangent (n + 1) x v ∧
          ‖v.toVector [n + 2]‖ = ‖c.toVector [n + 1]‖ ∧
          (sphere (n + 1)).coordinates x v none = .ok c) := by
  obtain ⟨b, given, axes, rows⟩ := basis_of_shape hx.shape
  have orthonormal := leading_orthonormal (reflection_mul_transpose
    (x.column (n + 2) - (pole (n + 1)).column (n + 2)))
  rw [← rows] at orthonormal
  refine ⟨b, given, axes, orthonormal, fun regular => ?_⟩
  have completes := basis_completes hx regular rows
  exact ⟨fun hv => vector_coordinates hx.shape given axes completes hv,
    fun hv => coordinates_of_tangent hx.shape given axes completes hv,
    fun hc => tangent_of_coordinates hx.shape given axes completes hc⟩

theorem coordinates_isometry_space :
    ∃ b, (sphere 2).basis (.vector [(2 / 3 : ℝ), 2 / 3, 1 / 3]) = .ok b ∧
      b.toMatrix 2 3 * (b.toMatrix 2 3)ᵀ = 1 ∧
      (∃ c w, (sphere 2).coordinates (.vector [(2 / 3 : ℝ), 2 / 3, 1 / 3]) (.vector [1, 2, 3]) none =
          .ok c ∧
        (sphere 2).vector (.vector [2 / 3, 2 / 3, 1 / 3]) c none = .ok w ∧
        (sphere 2).project (.vector [2 / 3, 2 / 3, 1 / 3]) (.vector [1, 2, 3]) = .ok w) ∧
      (∃ c, (sphere 2).coordinates (.vector [(2 / 3 : ℝ), 2 / 3, 1 / 3]) (.vector [1, -1, 0]) none =
          .ok c ∧
        (sphere 2).vector (.vector [2 / 3, 2 / 3, 1 / 3]) c none = .ok (.vector [1, -1, 0])) ∧
      ∃ v, (sphere 2).vector (.vector [(2 / 3 : ℝ), 2 / 3, 1 / 3]) (.vector [3, 4]) none = .ok v ∧
        (sphere 2).coordinates (.vector [2 / 3, 2 / 3, 1 / 3]) v none = .ok (.vector [3, 4]) := by
  have hx : Point 2 (.vector [2 / 3, 2 / 3, 1 / 3]) := point_vector rfl (by norm_num)
  have hv : Tangent 2 (.vector [2 / 3, 2 / 3, 1 / 3]) (.vector [1, -1, 0]) :=
    tangent_vector rfl rfl (by norm_num)
  have regular : Regular 2 (.vector [2 / 3, 2 / 3, 1 / 3]) :=
    .of_last hx (by norm_num [Tolerance.epsilon, Tensor.vector])
  obtain ⟨b, given, -, orthonormal, exact⟩ := coordinates_isometry (n := 1) hx
  obtain ⟨projected, returned, back⟩ := exact regular
  obtain ⟨c, w, taken, -, combined, same⟩ := projected (v := .vector [1, 2, 3]) rfl
  obtain ⟨d, taken', -, -, combined'⟩ := returned hv
  obtain ⟨v, combined'', -, -, taken''⟩ := back (c := .vector [3, 4]) rfl
  exact ⟨b, given, orthonormal, ⟨c, w, taken, combined, same⟩, ⟨d, taken', combined'⟩, v, combined'',
    taken''⟩

section Rows

variable {n : ℕ} {x b : Tensor ℝ}

theorem isTangent_of_point (hx : Point n x) {v : Tensor ℝ} (hv : v.shape = [n + 1]) {absolute : ℝ}
    (nonneg : 0 ≤ absolute) :
    ∃ valid, (sphere n).isTangent absolute x v = .ok valid ∧
      (valid = true ↔ |⟪x.toVector [n + 1], v.toVector [n + 1]⟫| ≤ absolute) := by
  have point : Sphere.isPoint absolute x = true := by
    rw [Sphere.isPoint, Tensor.length_toVector hx.shape, hx.unit, Scalar.abs_real, sub_self,
      abs_zero]
    exact decide_eq_true nonneg
  refine ⟨decide (Scalar.abs ⟪x.toVector [n + 1], v.toVector [n + 1]⟫ ≤ absolute), ?_, ?_⟩
  · have tested : (sphere n).isTangent absolute x v = if Sphere.isPoint absolute x then do
        let height ← x.dot v
        height.holds fun h => decide (Scalar.abs h ≤ absolute)
      else .ok false := rfl
    rw [tested, if_pos point, Tensor.dot_toVector hx.shape hv]
    rfl
  · rw [decide_eq_true_iff, Scalar.abs_real]

variable (hx : x.shape = [n + 2])

include hx

theorem inner_rows (axes : b.shape = [n + 1, n + 2]) :
    ∃ vectors, b.slices = .ok vectors ∧ vectors.length = n + 1 ∧ ∀ (i : Fin (n + 1)) v,
      vectors[(i : ℕ)]? = some v → v.shape = [n + 2] ∧
        ⟪x.toVector [n + 2], v.toVector [n + 2]⟫ =
          (b.toMatrix (n + 1) (n + 2) *ᵥ x.column (n + 2)) i := by
  obtain ⟨vectors, sliced, count, entries⟩ := Tensor.slices_row axes
  have size := Shape.size_singleton (n + 2)
  rw [size] at entries
  refine ⟨vectors, sliced, count, fun i v found => ?_⟩
  obtain ⟨hv, row⟩ := entries i v found
  refine ⟨hv, ?_⟩
  rw [Tensor.inner_eq_dotProduct hx hv, row, dotProduct_comm]
  rfl

variable (near : ¬ Regular (n + 1) x)

include near

theorem gap_lt_epsilon : (x.column (n + 2) - (pole (n + 1)).column (n + 2)) ⬝ᵥ
    (x.column (n + 2) - (pole (n + 1)).column (n + 2)) < Tolerance.epsilon := by
  rw [← gap_eq_dotProduct hx]
  exact not_le.mp fun away => near (.inl away)

theorem heights_near_pole (rows : b.toMatrix (n + 1) (n + 2) =
      (reflection (x.column (n + 2) - (pole (n + 1)).column (n + 2))).submatrix Fin.castSucc id)
    (i : Fin (n + 1)) :
    (b.toMatrix (n + 1) (n + 2) *ᵥ x.column (n + 2)) i = x.entries.getD i 0 := by
  rw [rows, reflection, if_pos (gap_lt_epsilon hx near)]
  change ((1 : Matrix (Fin (n + 2)) (Fin (n + 2)) ℝ) *ᵥ x.column (n + 2)) i.castSucc = _
  rw [one_mulVec]
  rfl

theorem abs_entry_le (i : Fin (n + 1)) : |x.entries.getD i 0| ≤ 1e-5 := by
  have close := gap_lt_epsilon hx near
  rw [column_pole] at close
  have entry : (x.column (n + 2) - Pi.single (Fin.last (n + 1)) 1 : Fin (n + 2) → ℝ) i.castSucc =
      x.entries.getD i 0 := by
    rw [Pi.sub_apply, Pi.single_eq_of_ne (Fin.castSucc_ne_last i), sub_zero]
    rfl
  have part := Finset.single_le_sum (fun j _ => mul_self_nonneg
    ((x.column (n + 2) - Pi.single (Fin.last (n + 1)) 1 : Fin (n + 2) → ℝ) j))
    (Finset.mem_univ i.castSucc)
  rw [entry, ← sq] at part
  have square : x.entries.getD i 0 ^ 2 ≤ (1e-5) ^ 2 := by
    refine part.trans (close.le.trans ?_)
    norm_num [Tolerance.epsilon]
  exact abs_le_of_sq_le_sq square (by norm_num)

end Rows

/-- The rows of a basis are tangent but close to the pole, where their heights are the entries of the
point, which are at most the root of the tolerance. They pass as tangent vectors only as far as these
entries are as small as that asks for. -/
theorem basis_rows_tangent {n : ℕ} {x : Tensor ℝ} (hx : Point (n + 1) x) :
    ∃ b vectors, (sphere (n + 1)).basis x = .ok b ∧ b.slices = .ok vectors ∧
      vectors.length = n + 1 ∧ ∀ (i : Fin (n + 1)) v, vectors[(i : ℕ)]? = some v →
        |⟪x.toVector [n + 2], v.toVector [n + 2]⟫| ≤ 1e-5 ∧
        (Regular (n + 1) x → ⟪x.toVector [n + 2], v.toVector [n + 2]⟫ = 0) ∧
        (¬ Regular (n + 1) x →
          ⟪x.toVector [n + 2], v.toVector [n + 2]⟫ = x.entries.getD i 0) ∧
        ∃ valid, (sphere (n + 1)).isTangent Tolerance.validation x v = .ok valid ∧
          (valid = true ↔ Regular (n + 1) x ∨ |x.entries.getD i 0| ≤ Tolerance.validation) := by
  have validation : (0 : ℝ) ≤ Tolerance.validation := by norm_num [Tolerance.validation]
  obtain ⟨b, given, axes, rows⟩ := basis_of_shape hx.shape
  obtain ⟨vectors, sliced, count, heights⟩ := inner_rows hx.shape axes
  refine ⟨b, vectors, given, sliced, count, fun i v found => ?_⟩
  obtain ⟨hv, height⟩ := heights i v found
  obtain ⟨valid, tested, iff⟩ := isTangent_of_point hx hv validation
  by_cases regular : Regular (n + 1) x
  · have zero : ⟪x.toVector [n + 2], v.toVector [n + 2]⟫ = 0 := by
      rw [height, (basis_completes hx regular rows).tangent]
      rfl
    rw [zero, abs_zero] at iff ⊢
    refine ⟨by norm_num, fun _ => rfl, fun near => absurd regular near, valid, tested, ?_⟩
    exact iff.trans (iff_of_true validation (.inl regular))
  · rw [heights_near_pole hx.shape regular rows] at height
    rw [height] at iff ⊢
    refine ⟨abs_entry_le hx.shape regular i, fun away => absurd away regular, fun _ => rfl, valid,
      tested, ?_⟩
    rw [iff, or_iff_right regular]

theorem basis_rows_tangent_space :
    ∃ b v, (sphere 2).basis (.vector [(2 / 3 : ℝ), 2 / 3, 1 / 3]) = .ok b ∧
      (∃ w, b.slices = .ok [v, w]) ∧
      ⟪(Tensor.vector [2 / 3, 2 / 3, 1 / 3]).toVector [1 + 2], v.toVector [1 + 2]⟫ = 0 ∧
      (sphere 2).isTangent Tolerance.validation (.vector [2 / 3, 2 / 3, 1 / 3]) v = .ok true := by
  have hx : Point 2 (.vector [2 / 3, 2 / 3, 1 / 3]) := point_vector rfl (by norm_num)
  have regular : Regular 2 (.vector [2 / 3, 2 / 3, 1 / 3]) :=
    .of_last hx (by norm_num [Tolerance.epsilon, Tensor.vector])
  obtain ⟨b, vectors, given, sliced, count, heights⟩ := basis_rows_tangent (n := 1) hx
  obtain ⟨v, w, rfl⟩ := List.length_eq_two.mp count
  obtain ⟨-, zero, -, valid, tested, iff⟩ := heights 0 v rfl
  obtain rfl : valid = true := iff.mpr (.inl regular)
  exact ⟨b, v, given, ⟨w, sliced⟩, zero regular, tested⟩

/-- On the circle, four millionths from the pole, the one row of the basis is no tangent vector. -/
theorem row_refused_near_pole :
    Point 1 (.vector [(1e6 : ℝ) / (2.5e11 + 1), (2.5e11 - 1) / (2.5e11 + 1)]) ∧
    ∃ b v, (sphere 1).basis (.vector [(1e6 : ℝ) / (2.5e11 + 1), (2.5e11 - 1) / (2.5e11 + 1)]) =
        .ok b ∧
      b.slices = .ok [v] ∧
      1e-6 < |⟪(Tensor.vector [1e6 / (2.5e11 + 1), (2.5e11 - 1) / (2.5e11 + 1)]).toVector [0 + 2],
        v.toVector [0 + 2]⟫| ∧
      (sphere 1).isTangent 1e-6
        (.vector [(1e6 : ℝ) / (2.5e11 + 1), (2.5e11 - 1) / (2.5e11 + 1)]) v = .ok false := by
  have hx : Point 1 (.vector [1e6 / (2.5e11 + 1), (2.5e11 - 1) / (2.5e11 + 1)]) :=
    point_vector rfl (by norm_num)
  have near : ¬ Regular 1 (.vector [1e6 / (2.5e11 + 1), (2.5e11 - 1) / (2.5e11 + 1)]) := by
    rintro (away | same)
    · rw [gap_of_point hx] at away
      norm_num [Tolerance.epsilon, Tensor.vector] at away
    · have entries := congrArg Tensor.entries same
      norm_num [Tensor.vector, pole, Tensor.tabulate, List.range_succ] at entries
  obtain ⟨b, given, axes, rows⟩ := basis_of_shape (n := 0) hx.shape
  obtain ⟨vectors, sliced, count, heights⟩ := inner_rows hx.shape axes
  obtain ⟨v, rfl⟩ := List.length_eq_one_iff.mp count
  obtain ⟨hv, height⟩ := heights 0 v rfl
  rw [heights_near_pole hx.shape near rows] at height
  have large : 1e-6 < |⟪(Tensor.vector [1e6 / (2.5e11 + 1), (2.5e11 - 1) / (2.5e11 + 1)]).toVector
      [0 + 2], v.toVector [0 + 2]⟫| := by
    rw [height]
    norm_num [Tensor.vector]
  have nonneg : (0 : ℝ) ≤ 1e-6 := by norm_num
  obtain ⟨valid, tested, iff⟩ := isTangent_of_point hx hv nonneg
  obtain rfl : valid = false := by
    rw [← Bool.not_eq_true, iff]
    exact not_le.mpr large
  exact ⟨hx, b, v, given, sliced, large, tested⟩

end Sphere

end ManifoldOpt
