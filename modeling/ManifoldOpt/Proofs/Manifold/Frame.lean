import Mathlib.Tactic.FieldSimp
import ManifoldOpt.Proofs.Linear.Coordinates
import ManifoldOpt.Proofs.Manifold.Transport

set_option autoImplicit false

namespace ManifoldOpt

open Matrix

theorem Shape.size_ne_zero {shape : Shape} (entries : 0 ∉ shape) : shape.size ≠ 0 := by
  induction shape with
  | nil => exact Nat.one_ne_zero
  | cons m rest ih =>
    rw [List.mem_cons, not_or] at entries
    exact Nat.mul_ne_zero (Ne.symm entries.1) (ih entries.2)

namespace Sphere

variable {n : ℕ} {x : Tensor ℝ}

noncomputable def reflection {m : ℕ} (w : Fin m → ℝ) : Matrix (Fin m) (Fin m) ℝ :=
  if w ⬝ᵥ w < Tolerance.epsilon then 1 else 1 - ((1 + 1) / (w ⬝ᵥ w)) • vecMulVec w w

theorem reflection_mul_transpose {m : ℕ} (w : Fin m → ℝ) :
    reflection w * (reflection w)ᵀ = 1 := by
  unfold reflection
  split
  next => simp
  next long =>
    have nonzero : w ⬝ᵥ w ≠ 0 := (Tolerance.epsilon_pos.trans_le (not_lt.mp long)).ne'
    have symmetric : (vecMulVec w w)ᵀ = vecMulVec w w := transpose_vecMulVec w w
    have square : vecMulVec w w * vecMulVec w w = (w ⬝ᵥ w) • vecMulVec w w := by
      rw [vecMulVec_mul_vecMulVec, vecMulVec_smul]
    have cancel : (1 + 1) / (w ⬝ᵥ w) * ((1 + 1) / (w ⬝ᵥ w)) * (w ⬝ᵥ w) =
        (1 + 1) / (w ⬝ᵥ w) + (1 + 1) / (w ⬝ᵥ w) := by
      field_simp
    rw [transpose_sub, transpose_one, transpose_smul, symmetric, sub_mul, mul_sub, mul_sub, one_mul,
      one_mul, mul_one, smul_mul_assoc, mul_smul_comm, square, smul_smul, smul_smul, cancel, add_smul]
    abel

theorem origin_square {m i j : ℕ} (wide : m ≠ 1) (hi : i < m) (hj : j < m) :
    Shape.origin [m, m] [m, m] (i * m + j) = i * m + j := by
  simp only [Shape.origin, if_neg wide, Tensor.position_mod hj, Tensor.position_div hj,
    Nat.mod_eq_of_lt hi]
  ring

theorem selectBy_square {m : ℕ} (wide : m ≠ 1) (test : ℝ → Bool) (s : ℝ) {a b : Tensor ℝ}
    (ha : a.shape = [m, m]) (hb : b.shape = [m, m]) :
    ∃ c, Tensor.selectBy test (.scalar s) a b = .ok c ∧ c.shape = [m, m] ∧
      c.toMatrix m m = if test s then a.toMatrix m m else b.toMatrix m m := by
  have same := ha.trans hb.symm
  let chosen (i : ℕ) : ℝ :=
    if test s then a.entries.getD (Shape.origin [m, m] [m, m] i) 0
    else b.entries.getD (Shape.origin [m, m] [m, m] i) 0
  have selected : Tensor.selectBy test (.scalar s) a b = .ok (.tabulate [m, m] chosen) := by
    refine Outcome.bind_eq_ok.mpr ⟨a, Tensor.pointwise_left same,
      Outcome.bind_eq_ok.mpr ⟨b, Tensor.pointwise_right same, ?_⟩⟩
    simp only [ha, hb]
    rfl
  refine ⟨_, selected, rfl, ?_⟩
  rw [Tensor.toMatrix_tabulate (by simp)]
  ext i j
  simp only [of_apply, chosen, origin_square wide i.isLt j.isLt]
  split <;> rfl

theorem getD_products {x y : List ℝ} {i j : ℕ} (hi : i < x.length) (hj : j < y.length) :
    (x.flatMap fun a => y.map (Scalar.product a)).getD (i * y.length + j) 0 =
      x.getD i 0 * y.getD j 0 := by
  induction x generalizing i with
  | nil => simp at hi
  | cons a x ih =>
    rw [List.flatMap_cons]
    cases i with
    | zero => simp [List.getD_eq_getElem?_getD, List.getElem?_append, hj]
    | succ i =>
      have later := ih (i := i) (by simpa using hi)
      have beyond : (y.map (Scalar.product a)).length ≤ (i + 1) * y.length + j := by
        rw [List.length_map, Nat.succ_mul]
        omega
      have left : (i + 1) * y.length + j - (y.map (Scalar.product a)).length = i * y.length + j := by
        rw [List.length_map, Nat.succ_mul]
        omega
      rw [List.getD_eq_getElem?_getD, List.getElem?_append_right beyond, left,
        ← List.getD_eq_getElem?_getD, later, List.getD_cons_succ]

theorem householder_of_shape {m : ℕ} {w : Tensor ℝ} (hw : w.shape = [m]) (g : ℝ) :
    ∃ ratio h, ((w.outer w).scale (1 + 1)).div (.scalar g) = .ok ratio ∧
      (Tensor.identity m).sub ratio = .ok h ∧ h.shape = [m, m] ∧
      h.toMatrix m m = 1 - ((1 + 1) / g) • vecMulVec (w.column m) (w.column m) := by
  have full : w.entries.length = m := by rw [w.size_eq, hw, Shape.size_singleton]
  let ratio := ((w.outer w).scale (1 + 1)).map (Scalar.quotient · g)
  have square : ratio.shape = [m, m] := by
    change [w.entries.length, w.entries.length] = _
    rw [full]
  have divided : ((w.outer w).scale (1 + 1)).div (.scalar g) = .ok ratio := rfl
  refine ⟨ratio, _, divided, Tensor.pointwise_of_shape _ square.symm, rfl, ?_⟩
  ext i j
  have below := row_end_le m i.isLt
  have product : (w.outer w).entries.getD (i * m + j) 0 = w.column m i * w.column m j := by
    have entry := getD_products (x := w.entries) (y := w.entries) (i := i) (j := j) (by omega)
      (by omega)
    rwa [full] at entry
  have inside : (i : ℕ) * m + j < ratio.entries.length := by
    rw [ratio.size_eq, square, Shape.size_cons, Shape.size_singleton]
    omega
  have inside' : (i : ℕ) * m + j < (Tensor.identity m : Tensor ℝ).entries.length := by
    simpa [Tensor.identity, Tensor.tabulate] using (by omega : (i : ℕ) * m + j < m * m)
  have quotient : ratio.entries.getD (i * m + j) 0 = (1 + 1) * (w.column m i * w.column m j) / g := by
    have inside'' : (i : ℕ) * m + j < (w.outer w).entries.length := by
      simpa [ratio, Tensor.scale] using inside
    rw [← product]
    simp [ratio, Tensor.scale, inside'']
  have entry : (Tensor.identity m).entries.getD (i * m + j) 0 - ratio.entries.getD (i * m + j) 0 =
      (1 - ((1 + 1) / g) • vecMulVec (w.column m) (w.column m)) i j := by
    rw [quotient, ← Tensor.toMatrix_identity, Matrix.sub_apply, Matrix.smul_apply,
      vecMulVec_apply, smul_eq_mul]
    change (Tensor.identity m).toMatrix m m i j - _ = _
    ring
  rw [← entry]
  simp [Tensor.toMatrix, Tensor.zipSame, inside, inside']

theorem toMatrix_leading {m : ℕ} {a : Tensor ℝ} (ha : a.shape = [m + 1, m + 1]) :
    (a.leading m).shape = [m, m + 1] ∧
      (a.leading m).toMatrix m (m + 1) = (a.toMatrix (m + 1) (m + 1)).submatrix Fin.castSucc id := by
  have fewer : min m (m + 1) = m := Nat.min_eq_left (Nat.le_succ m)
  simp only [Tensor.leading, ha, fewer]
  refine ⟨rfl, ?_⟩
  rw [Tensor.toMatrix_tabulate (by simp)]
  rfl

/-- The last unit vector, the point that bases are reflected from. -/
noncomputable def pole (n : ℕ) : Tensor ℝ := .tabulate [n + 1] fun i => if i = n then 1 else 0

theorem setLast_zeros (hx : x.shape = [n + 1]) : x.zerosLike.setLast 1 = .ok (pole n) := by
  have zeros : x.zerosLike.shape = [n + 1] := hx
  simp only [Tensor.setLast, zeros]
  refine congrArg _ (Tensor.ext rfl (List.map_congr_left fun i inside => ?_))
  have below : i < n + 1 := by simpa using inside
  by_cases last : i = n
  · simp [last]
  · have before : ¬ n ≤ i := by omega
    simp [last, before, Tensor.zerosLike, Tensor.zeros, Tensor.fill, hx, below]

theorem basis_of_shape (hx : x.shape = [n + 2]) :
    ∃ b, basis (n + 1) x = .ok b ∧ b.shape = [n + 1, n + 2] ∧
      b.toMatrix (n + 1) (n + 2) = (reflection (x.column (n + 2) -
        (pole (n + 1)).column (n + 2))).submatrix Fin.castSucc id := by
  have unit := setLast_zeros hx
  obtain ⟨w, difference, hw, vector⟩ := Tensor.sub_of_shape (y := pole (n + 1)) hx rfl
  have column : x.column (n + 2) - (pole (n + 1)).column (n + 2) = w.column (n + 2) := by
    rw [Tensor.column_eq_toVector _ w, vector]
    rfl
  have square : w.dot w = .ok (.scalar (sumProducts w.entries w.entries)) := by
    simp only [Tensor.dot, hw, List.reverse_singleton, if_true]
  obtain ⟨ratio, h, divided, subtracted, hh, matrix⟩ := householder_of_shape hw
    (Scalar.maximum (sumProducts w.entries w.entries) Tolerance.epsilon)
  obtain ⟨c, selected, hc, chosen⟩ := selectBy_square (m := n + 2) (by omega)
    (fun s => decide (s < Tolerance.epsilon)) (sumProducts w.entries w.entries)
    (a := .identity (n + 2)) rfl hh
  obtain ⟨shape, rows⟩ := toMatrix_leading hc
  refine ⟨c.leading (n + 1), ?_, shape, ?_⟩
  · refine Outcome.bind_eq_ok.mpr ⟨_, unit, Outcome.bind_eq_ok.mpr ⟨w, difference, ?_⟩⟩
    refine Outcome.bind_eq_ok.mpr ⟨_, square, Outcome.bind_eq_ok.mpr ⟨ratio, divided, ?_⟩⟩
    exact Outcome.bind_eq_ok.mpr ⟨h, subtracted, Outcome.bind_eq_ok.mpr ⟨c, selected, rfl⟩⟩
  · have full : w.entries.length = n + 2 := by rw [w.size_eq, hw, Shape.size_singleton]
    have dot : w.column (n + 2) ⬝ᵥ w.column (n + 2) = sumProducts w.entries w.entries :=
      (sumProducts_eq_sum full full).symm
    rw [column, rows, chosen, reflection, dot, matrix]
    by_cases short : sumProducts w.entries w.entries < Tolerance.epsilon
    · rw [if_pos (decide_eq_true short), if_pos short, Tensor.toMatrix_identity]
    · have same : Scalar.maximum (sumProducts w.entries w.entries) Tolerance.epsilon =
          sumProducts w.entries w.entries := by
        simp [Scalar.maximum, not_lt.mp short]
      rw [if_neg (by simpa using short), if_neg short, same]

theorem leading_orthonormal {m : ℕ} {H : Matrix (Fin (m + 1)) (Fin (m + 1)) ℝ}
    (orthogonal : H * Hᵀ = 1) :
    H.submatrix Fin.castSucc id * (H.submatrix Fin.castSucc id)ᵀ = 1 := by
  rw [transpose_submatrix, ← submatrix_mul _ _ _ _ _ Function.bijective_id, orthogonal]
  exact submatrix_one _ (Fin.castSucc_injective _)

theorem basis_orthonormal (hx : x.shape = [n + 2]) :
    ∃ b, basis (n + 1) x = .ok b ∧ b.shape = [n + 1, n + 2] ∧
      b.toMatrix (n + 1) (n + 2) * (b.toMatrix (n + 1) (n + 2))ᵀ = 1 := by
  obtain ⟨b, given, shape, rows⟩ := basis_of_shape hx
  exact ⟨b, given, shape, by rw [rows, leading_orthonormal (reflection_mul_transpose _)]⟩

end Sphere

structure Manifold.Framed (M : Manifold ℝ) (shape : Shape) (n : ℕ) : Prop where
  positive : n ≠ 0
  dimension : M.dimension = .ok (.int n)
  basis : ∀ {p}, p.shape = shape → ∃ b, M.basis p = .ok b ∧ b.shape = n :: shape ∧
    b.toMatrix n shape.size * (b.toMatrix n shape.size)ᵀ = 1
  coordinates : ∀ p v b, M.coordinates p v (some b) = Tensor.coordinates b v.ravel
  vector : ∀ p c b, M.vector p c (some b) = Tensor.combine c b

theorem euclidean_framed {shape : Shape} (entries : 0 ∉ shape) :
    (euclidean shape).Framed shape shape.size where
  positive := Shape.size_ne_zero entries
  dimension := rfl
  basis _ := ⟨_, rfl, rfl, by rw [Tensor.toMatrix_standardBasis, transpose_one, mul_one]⟩
  coordinates _ _ _ := rfl
  vector _ _ _ := rfl

theorem sphere_framed (n : ℕ) : (sphere (n + 1)).Framed [n + 2] (n + 1) where
  positive := Nat.succ_ne_zero n
  dimension := rfl
  basis inside := by
    rw [Shape.size_singleton]
    exact Sphere.basis_orthonormal inside
  coordinates _ _ _ := rfl
  vector _ _ _ := rfl

inductive Manifold.Standard : Manifold ℝ → Shape → ℕ → Prop
  | flat {shape : Shape} (axes : shape ≠ []) (entries : 0 ∉ shape) :
    Standard (euclidean shape) shape shape.size
  | round (n : ℕ) : Standard (sphere (n + 1)) [n + 2] (n + 1)

theorem Manifold.Standard.framed {M : Manifold ℝ} {shape : Shape} {n : ℕ}
    (standard : M.Standard shape n) : M.Framed shape n := by
  cases standard with
  | flat _ entries => exact euclidean_framed entries
  | round n => exact sphere_framed n

theorem Manifold.Standard.shaped {M : Manifold ℝ} {shape : Shape} {n : ℕ}
    (standard : M.Standard shape n) : M.Shaped shape := by
  cases standard with
  | flat axes entries => exact euclidean_shaped axes entries
  | round n => exact sphere_shaped (n + 1)

/-- Over points of one shape, the fibers of a bundle are arrays of the shape `fiber`. The `n`
coordinates in a fiber are a matrix times the entries, and transports lead from fiber to fiber. -/
structure Bundle.Linear (bundle : Bundle ℝ) (shape fiber : Shape) (n : ℕ) : Prop where
  dimension : bundle.fiberDimension = .ok (.int n)
  coordinates : ∀ {p}, p.shape = shape → ∃ b, bundle.basis p = .ok b ∧
    ∃ C : Matrix (Fin n) (Fin fiber.size) ℝ, ∀ v, v.entries.length = fiber.size →
      ∃ c, bundle.coordinates p v (some b) = .ok c ∧ c.shape = [n] ∧
        c.column n = C *ᵥ v.column fiber.size
  transport : ∀ {p q v method}, p.shape = shape → q.shape = shape → v.shape = fiber →
    method.NamesTransport → ∃ w, bundle.transport p q v method = .ok w ∧ w.shape = fiber

theorem Bundle.Linear.coordinates_of_shape {bundle : Bundle ℝ} {shape fiber : Shape} {n : ℕ}
    (fibers : bundle.Linear shape fiber n) {p b v : Tensor ℝ} (inside : p.shape = shape)
    (given : bundle.basis p = .ok b) (element : v.shape = fiber) :
    ∃ c, bundle.coordinates p v (some b) = .ok c ∧ c.shape = [n] := by
  obtain ⟨b', given', C, coordinates⟩ := fibers.coordinates inside
  obtain rfl := Except.ok.inj (given.symm.trans given')
  obtain ⟨c, taken, hc, -⟩ := coordinates v (by rw [v.size_eq, element])
  exact ⟨c, taken, hc⟩

theorem Manifold.Standard.tangent_linear {M : Manifold ℝ} {shape : Shape} {n : ℕ}
    (standard : M.Standard shape n) : (Bundle.tangent M).Linear shape shape n where
  dimension := standard.framed.dimension
  coordinates inside := by
    obtain ⟨b, given, axes, -⟩ := standard.framed.basis inside
    refine ⟨b, given, b.toMatrix n shape.size, fun v full => ?_⟩
    obtain ⟨c, taken, hc, column⟩ := Tensor.coordinates_mulVec standard.framed.positive axes full
    exact ⟨c, (standard.framed.coordinates _ v b).trans taken, hc, column⟩
  transport hp hq hv named := by
    cases standard with
    | flat => exact ⟨_, euclidean_transport named, hv⟩
    | round => exact Sphere.transport_of_shape hp hq hv named

theorem trivial_linear (M : Manifold ℝ) (shape : Shape) {fiber : Shape} (entries : 0 ∉ fiber) :
    (Bundle.trivial M fiber).Linear shape fiber fiber.size where
  dimension := rfl
  coordinates _ := by
    refine ⟨_, rfl, (standardBasis fiber).toMatrix fiber.size fiber.size, fun v full => ?_⟩
    exact Tensor.coordinates_mulVec (Shape.size_ne_zero entries) rfl full
  transport _ _ inside named := ⟨_, trivial_transport_eq named, inside⟩

end ManifoldOpt
