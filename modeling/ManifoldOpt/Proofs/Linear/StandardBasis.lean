import Mathlib.Data.Real.Basic
import ManifoldOpt.Proofs.Linear.Coordinates
import ManifoldOpt.Proofs.Scalar.Exact

/-!
Coordinates along the standard basis. Each is a sum of products, all but one of them multiples by
zero, and so is each entry of a combination: the rows and the columns of the basis are those of the
identity. Where multiples by one and by zero are those of real numbers, such a sum is the one entry
that is left.
-/

set_option autoImplicit false

namespace ManifoldOpt

open Scalar (Unital isFinite product)

variable {α : Type} [Scalar α]

section Rows

def unitRow (n i : ℕ) : List α := (List.replicate n 0).set i 1

theorem length_unitRow (n i : ℕ) : (unitRow n i : List α).length = n := by simp [unitRow]

theorem getElem?_unitRow {n i j : ℕ} (inside : j < n) :
    (unitRow n i : List α)[j]? = some (if i = j then 1 else 0) := by
  by_cases same : i = j
  · subst same
    simp [unitRow, inside]
  · simp [unitRow, inside, same]

variable [Unital α]

theorem sumProducts_comm (x y : List α) : sumProducts x y = sumProducts y x := by
  unfold sumProducts
  rw [List.zipWith_comm_of_comm Unital.product_comm]

theorem foldl_zeros {a : α} (begun : isFinite a = true) {x : List α}
    (finite : ∀ b ∈ x, isFinite b = true) (n : ℕ) :
    (List.zipWith product (List.replicate n 0) x).foldl Scalar.sum (Scalar.sum 0 a) =
      Scalar.sum 0 a := by
  induction x generalizing n with
  | nil => simp
  | cons b x ih =>
    rw [List.forall_mem_cons] at finite
    cases n with
    | zero => rfl
    | succ n =>
      rw [List.replicate_succ, List.zipWith_cons_cons, List.foldl_cons,
        Unital.sum_product_zero begun finite.1]
      exact ih finite.2 n

theorem sumProducts_unitRow {x : List α} (finite : ∀ b ∈ x, isFinite b = true) {n i : ℕ}
    (full : x.length = n) (inside : i < x.length) :
    sumProducts (unitRow n i) x = Scalar.sum 0 x[i] := by
  subst full
  unfold sumProducts unitRow
  -- Up to the position `i` the sum stays zero; from there on it stays what it has become.
  induction x generalizing i with
  | nil => simp at inside
  | cons b x ih =>
    rw [List.forall_mem_cons] at finite
    rw [List.length_cons, List.replicate_succ]
    cases i with
    | zero =>
      rw [List.set_cons_zero, List.zipWith_cons_cons, List.foldl_cons,
        Unital.sum_product_one finite.1]
      exact foldl_zeros finite.1 finite.2 _
    | succ i =>
      have nothing : Scalar.sum 0 (product 0 b) = 0 := by
        have kept := Unital.sum_product_zero Unital.finite_zero finite.1
        rwa [Unital.sum_zero] at kept
      rw [List.set_cons_succ, List.zipWith_cons_cons, List.foldl_cons, nothing]
      exact ih finite.2 _

end Rows

section Basis

variable {shape : Shape} {i j : ℕ}

theorem identity_reshape (shape : Shape) :
    (Tensor.identity shape.size : Tensor α).reshape (shape.size :: shape) =
      .ok (standardBasis shape) := by
  have size : (Tensor.identity shape.size : Tensor α).shape.size =
      Shape.size (shape.size :: shape) := by
    change shape.size * (shape.size * 1) = shape.size * shape.size
    rw [Nat.mul_one]
  rw [Tensor.reshape, Tensor.reshape?, dif_pos size]
  refine congrArg Except.ok (Tensor.ext rfl ?_)
  change (List.range _).map _ = (List.range _).map _
  rw [← size]
  rfl

theorem standardBasis_slices (shape : Shape) :
    ∃ vectors, (standardBasis shape : Tensor α).slices = .ok vectors ∧
      vectors.length = shape.size :=
  ⟨_, rfl, by simp⟩

theorem standardBasis_entry (hi : i < shape.size) (hj : j < shape.size) :
    (standardBasis shape : Tensor α).entries[i * shape.size + j]? =
      some (if i = j then 1 else 0) := by
  have below := row_end_le shape.size hi
  have inside : i * shape.size + j < shape.size * shape.size := by omega
  simp [standardBasis, Tensor.tabulate, List.getElem?_range inside, Tensor.position_div hj,
    Nat.mod_eq_of_lt hj]

theorem standardBasis_row (hi : i < shape.size) :
    ((standardBasis shape : Tensor α).entries.drop (i * shape.size)).take shape.size =
      unitRow shape.size i := by
  refine List.ext_getElem? fun j => ?_
  by_cases hj : j < shape.size
  · rw [List.getElem?_take_of_lt hj, List.getElem?_drop, standardBasis_entry hi hj,
      getElem?_unitRow hj]
  · have left := List.length_take_le shape.size
      ((standardBasis shape : Tensor α).entries.drop (i * shape.size))
    have right := length_unitRow (α := α) shape.size i
    rw [List.getElem?_eq_none (by omega), List.getElem?_eq_none (by omega)]

theorem standardBasis_column (hj : j < shape.size) :
    ((List.range shape.size).map fun row =>
      (standardBasis shape : Tensor α).entries.getD (row * shape.size + j) 0) =
      unitRow shape.size j := by
  refine List.ext_getElem? fun i => ?_
  by_cases hi : i < shape.size
  · rw [List.getElem?_map, List.getElem?_range hi, Option.map_some, List.getD_eq_getElem?_getD,
      standardBasis_entry hi hj, Option.getD_some, getElem?_unitRow hi]
    simp only [eq_comm]
  · have right := length_unitRow (α := α) shape.size j
    rw [List.getElem?_eq_none (by simpa using hi), List.getElem?_eq_none (by omega)]

end Basis

namespace Tensor

def Exact (x : Tensor α) : Prop := ∀ a ∈ x.entries, Scalar.Exact a

theorem exact_real (x : Tensor ℝ) : x.Exact := fun a _ => Scalar.exact_real a

variable {shape : Shape} {v : Tensor α}

theorem Exact.finite (exact : v.Exact) : ∀ a ∈ v.entries, isFinite a = true :=
  fun a member => (exact a member).1

theorem Exact.kept (exact : v.Exact) : v.map (Scalar.sum 0) = v := by
  refine Tensor.ext rfl ?_
  rw [entries_map, List.map_congr_left fun a member => (exact a member).2]
  exact List.map_id _

variable [Unital α]

theorem coordinates_standardBasis_finite (nonempty : shape.size ≠ 0)
    (full : v.entries.length = shape.size) (finite : ∀ a ∈ v.entries, isFinite a = true) :
    coordinates (standardBasis shape) v.ravel = .ok (v.ravel.map (Scalar.sum 0)) := by
  obtain ⟨n, size⟩ := Nat.exists_eq_succ_of_ne_zero nonempty
  have axes : (standardBasis shape : Tensor α).shape = (n + 1) :: shape :=
    congrArg (· :: shape) size
  have wide : shape.size = v.ravel.entries.length := full.symm
  have row : v.ravel.shape = [n + 1] := congrArg (fun k => [k]) (full.trans size)
  simp only [coordinates, axes, if_pos wide]
  refine congrArg _ (tabulate_eq_map row fun i inside => ?_)
  rw [standardBasis_row (inside.trans_eq full)]
  exact sumProducts_unitRow finite full inside

theorem coordinates_standardBasis_exact (nonempty : shape.size ≠ 0)
    (full : v.entries.length = shape.size) (exact : v.Exact) :
    coordinates (standardBasis shape) v.ravel = .ok v.ravel := by
  have row : v.ravel.Exact := exact
  rw [coordinates_standardBasis_finite nonempty full exact.finite, row.kept]

theorem combine_standardBasis_finite (hv : v.shape = shape)
    (finite : ∀ a ∈ v.entries, isFinite a = true) :
    combine v.ravel (standardBasis shape) = .ok (v.map (Scalar.sum 0)) := by
  have full : v.entries.length = shape.size := by rw [v.size_eq, hv]
  have axes : (standardBasis shape : Tensor α).shape = shape.size :: shape := rfl
  simp only [combine, shape_ravel hv, axes, List.reverse_singleton, if_true]
  refine congrArg _ (tabulate_eq_map hv fun i inside => ?_)
  have below : i < shape.size := inside.trans_eq full
  -- The coefficients are one row, and the products are the other way around.
  rw [Nat.div_eq_of_lt below, Nat.mod_eq_of_lt below, Nat.zero_mul, List.drop_zero, entries_ravel,
    List.take_of_length_le full.le, standardBasis_column below, sumProducts_comm]
  exact sumProducts_unitRow finite full inside

theorem combine_standardBasis_exact (hv : v.shape = shape) (exact : v.Exact) :
    combine v.ravel (standardBasis shape) = .ok v := by
  rw [combine_standardBasis_finite hv exact.finite, exact.kept]

end Tensor

end ManifoldOpt
