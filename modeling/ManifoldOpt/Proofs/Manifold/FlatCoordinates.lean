import ManifoldOpt.Proofs.Linear.StandardBasis
import ManifoldOpt.Proofs.Manifold.Frame
import ManifoldOpt.Proofs.Scalar.Precision

set_option autoImplicit false

namespace ManifoldOpt

open Scalar (Unital)

variable {α : Type} [Scalar α]

/-- Coordinates of arrays that are the same without a basis and along `b`, as are the arrays with given
coordinates. Each of the two ways undoes both ways back. -/
structure Interchangeable (shape : Shape) (b : Tensor α)
    (coordinates vector : Tensor α → Option (Tensor α) → Outcome α (Tensor α)) : Prop where
  forward : ∀ {v}, v.shape = shape → v.Exact → ∃ c, c.shape = [shape.size] ∧ c.Exact ∧
    ∀ given ∈ [none, some b], coordinates v given = .ok c ∧ vector c given = .ok v
  backward : ∀ {c}, c.shape = [shape.size] → c.Exact → ∃ v, v.shape = shape ∧ v.Exact ∧
    ∀ given ∈ [none, some b], vector c given = .ok v ∧ coordinates v given = .ok c

/-- Without a basis coordinates are the flattened entries; with one they are taken along it. -/
structure Flattens (shape : Shape)
    (coordinates vector : Tensor α → Option (Tensor α) → Outcome α (Tensor α)) : Prop where
  ravel : ∀ v, coordinates v none = .ok v.ravel
  along : ∀ v b, coordinates v (some b) = Tensor.coordinates b v.ravel
  reshape : ∀ c, vector c none = c.reshape shape
  combine : ∀ c b, vector c (some b) = Tensor.combine c b

section Flattens

variable [Unital α] {shape : Shape}
  {coordinates vector : Tensor α → Option (Tensor α) → Outcome α (Tensor α)}
  (flat : Flattens shape coordinates vector) (entries : 0 ∉ shape)

include flat entries

theorem Flattens.given {v : Tensor α} (hv : v.shape = shape) (exact : v.Exact) :
    ∀ given ∈ [none, some (standardBasis shape)],
      coordinates v given = .ok v.ravel ∧ vector v.ravel given = .ok v := by
  have full : v.entries.length = shape.size := by rw [v.size_eq, hv]
  intro given member
  cases given with
  | none => exact ⟨flat.ravel v, (flat.reshape _).trans (Tensor.reshape_ravel hv)⟩
  | some b =>
    obtain rfl : b = standardBasis shape := by simpa using member
    constructor
    · rw [flat.along]
      exact Tensor.coordinates_standardBasis_exact (Shape.size_ne_zero entries) full exact
    · rw [flat.combine, Tensor.combine_standardBasis_exact hv exact]

theorem Flattens.interchangeable :
    Interchangeable shape (standardBasis shape) coordinates vector where
  forward {v} hv exact := ⟨v.ravel, Tensor.shape_ravel hv, exact, flat.given entries hv exact⟩
  backward hc exact := by
    -- Every coordinate vector is the flattening of an array.
    obtain ⟨v, hv, rfl⟩ := Tensor.exists_ravel hc
    exact ⟨v, hv, exact, fun given member => (flat.given entries hv exact given member).symm⟩

end Flattens

theorem euclidean_flattens (shape : Shape) (p : Tensor α) :
    Flattens shape ((euclidean shape).coordinates p) ((euclidean shape).vector p) :=
  ⟨fun _ => rfl, fun _ _ => rfl, fun _ => rfl, fun _ _ => rfl⟩

theorem trivial_flattens (M : Manifold α) (shape : Shape) (p : Tensor α) :
    Flattens shape ((Bundle.trivial M shape).coordinates p) ((Bundle.trivial M shape).vector p) :=
  ⟨fun _ => rfl, fun _ _ => rfl, fun _ => rfl, fun _ _ => rfl⟩

theorem euclidean_inner_ravel {shape : Shape} {p u v : Tensor α} (hu : u.shape = shape)
    (hv : v.shape = shape) :
    ∃ s, (euclidean shape).inner p u v = .ok (.scalar s) ∧ u.ravel.dot v.ravel = .ok (.scalar s) := by
  refine ⟨sumProducts u.entries v.entries, ?_, ?_⟩
  · simp only [euclidean, Tensor.mul, Tensor.pointwise_of_shape _ (hu.trans hv.symm)]
    rfl
  · simp only [Tensor.dot, Tensor.shape_ravel hu, Tensor.shape_ravel hv, List.reverse_singleton,
      if_true]
    rfl

/-- In Euclidean spaces and in the fibers of product bundles the basis is the identity under another
shape, with as many vectors as there are dimensions. For exact values coordinates without a basis and
along it agree, as the arrays with given coordinates do; the two ways are inverse to each other, and
coordinates in Euclidean spaces keep inner products. Real numbers and floating point numbers are such
scalars. -/
theorem flat_coordinates_agree [Unital α] {shape : Shape} (entries : 0 ∉ shape) (M : Manifold α)
    (p : Tensor α) :
    ∃ b vectors, (Tensor.identity shape.size).reshape (shape.size :: shape) = .ok b ∧
      (euclidean shape).basis p = .ok b ∧ (Bundle.trivial M shape).basis p = .ok b ∧
      b.slices = .ok vectors ∧
      (euclidean shape : Manifold α).dimension = .ok (.int vectors.length) ∧
      (Bundle.trivial M shape).fiberDimension = .ok (.int vectors.length) ∧
      Interchangeable shape b ((euclidean shape).coordinates p) ((euclidean shape).vector p) ∧
      Interchangeable shape b ((Bundle.trivial M shape).coordinates p)
        ((Bundle.trivial M shape).vector p) ∧
      ∀ {u v}, u.shape = shape → v.shape = shape → u.Exact → v.Exact →
        ∀ given ∈ [none, some b], ∃ c d s,
          (euclidean shape).coordinates p u given = .ok c ∧
          (euclidean shape).coordinates p v given = .ok d ∧
          (euclidean shape).inner p u v = .ok (.scalar s) ∧ c.dot d = .ok (.scalar s) := by
  obtain ⟨vectors, sliced, count⟩ := standardBasis_slices (α := α) shape
  have flat := euclidean_flattens shape p
  refine ⟨standardBasis shape, vectors, identity_reshape shape, rfl, rfl, sliced, count ▸ rfl,
    count ▸ rfl, flat.interchangeable entries,
    (trivial_flattens M shape p).interchangeable entries, ?_⟩
  intro u v hu hv exact_u exact_v given member
  obtain ⟨s, inner, dot⟩ := euclidean_inner_ravel (p := p) hu hv
  have left := flat.given entries hu exact_u given member
  have right := flat.given entries hv exact_v given member
  exact ⟨u.ravel, v.ravel, s, left.1, right.1, inner, dot⟩

noncomputable def realMatrix : Tensor ℝ := ⟨[2, 2], [1, -1, Real.pi, 0], rfl⟩

def floatBox : Tensor Float := ⟨[1, 2, 2], [0.1, -3.5, 1e300, 0.0], rfl⟩

theorem floatBox_exact : floatBox.Exact := by
  intro a member
  simp only [floatBox, List.mem_cons, List.not_mem_nil, or_false] at member
  rw [Scalar.float_exact_iff]
  obtain rfl | rfl | rfl | rfl := member
  · exact ⟨by decide +kernel, .inr (by decide +kernel)⟩
  · exact ⟨by decide +kernel, .inr (by decide +kernel)⟩
  · exact ⟨by decide +kernel, .inr (by decide +kernel)⟩
  · exact ⟨by decide +kernel, .inl rfl⟩

theorem flat_coordinates_agree_arrays :
    (0 ∉ [2, 2] ∧ realMatrix.Exact ∧ ∃ b c s, (euclidean [2, 2]).basis realMatrix = .ok b ∧
      (∀ given ∈ [none, some b],
        (euclidean [2, 2]).coordinates realMatrix realMatrix given = .ok c ∧
        (euclidean [2, 2]).vector realMatrix c given = .ok realMatrix) ∧
      (euclidean [2, 2]).inner realMatrix realMatrix realMatrix = .ok (.scalar s) ∧
      c.dot c = .ok (.scalar s)) ∧
    0 ∉ [1, 2, 2] ∧ floatBox.Exact ∧ ∃ b c,
      (Bundle.trivial (sphere 2) [1, 2, 2]).basis (.vector [0.6, 0.0, 0.8]) = .ok b ∧
      ∀ given ∈ [none, some b],
        (Bundle.trivial (sphere 2) [1, 2, 2]).coordinates (.vector [0.6, 0.0, 0.8]) floatBox given =
          .ok c ∧
        (Bundle.trivial (sphere 2) [1, 2, 2]).vector (.vector [0.6, 0.0, 0.8]) c given =
          .ok floatBox := by
  have exact_real := Tensor.exact_real realMatrix
  constructor
  · obtain ⟨b, -, -, given, -, -, -, -, flat, -, inner⟩ :=
      flat_coordinates_agree (show 0 ∉ [2, 2] by decide) (sphere 2) realMatrix
    obtain ⟨c, -, -, both⟩ := flat.forward rfl exact_real
    obtain ⟨c', c'', s, left, right, product, dot⟩ :=
      inner (u := realMatrix) (v := realMatrix) rfl rfl exact_real exact_real none (by simp)
    obtain rfl := Except.ok.inj ((both none (by simp)).1.symm.trans left)
    obtain rfl := Except.ok.inj (left.symm.trans right)
    exact ⟨by decide, exact_real, b, _, s, given, both, product, dot⟩
  · obtain ⟨b, -, -, -, given, -, -, -, -, flat, -⟩ :=
      flat_coordinates_agree (show 0 ∉ [1, 2, 2] by decide) (sphere 2)
        (.vector [(0.6 : Float), 0.0, 0.8])
    obtain ⟨c, -, -, both⟩ := flat.forward rfl floatBox_exact
    exact ⟨by decide, floatBox_exact, b, c, given, both⟩

end ManifoldOpt
