import ManifoldOpt.Manifold.Euclidean
import ManifoldOpt.Manifold.Sphere
import ManifoldOpt.Proofs.Attempt
import ManifoldOpt.Proofs.Tensor

set_option autoImplicit false

namespace ManifoldOpt

variable {α : Type} [Scalar α]

open Outcome

omit [Scalar α] in
theorem copyTo_eq_ok {dst src x : Tensor α} (copied : copyTo dst src = .ok x) : x = src := by
  unfold copyTo at copied
  split at copied
  · exact (Except.ok.inj copied).symm
  · cases copied

namespace Manifold

/-- Points and tangent vectors are arrays of one shape with entries, and a basis is an array of
them. With some vectors in the basis all coordinates can be taken. -/
structure Shaped (M : Manifold α) (shape : Shape) : Prop where
  axes : shape ≠ []
  entries : 0 ∉ shape
  retract : ∀ {m x v q}, x.shape = shape → v.shape = shape → M.retractBy m x v = .ok q →
    q.shape = shape
  basis : ∀ {x b}, x.shape = shape → M.basis x = .ok b → ∃ count, b.shape = count :: shape
  coordinates : ∀ {x v b count}, x.shape = shape → v.shape = shape →
    b.shape = (count + 1) :: shape →
    ∃ c, M.coordinates x v (some b) = .ok c ∧ c.shape = [count + 1]
  vector : ∀ {x c b v k count}, x.shape = shape → c.shape = [k] → b.shape = count :: shape →
    M.vector x c (some b) = .ok v → v.shape = shape

end Manifold

theorem euclidean_shaped {shape : Shape} (axes : shape ≠ []) (entries : 0 ∉ shape) :
    (euclidean shape : Manifold α).Shaped shape where
  axes := axes
  entries := entries
  retract {m} _ _ _ hx hv moved := by
    cases m with
    | exponential => exact Tensor.shape_of_pointwise hx hv moved
    | projection => exact Tensor.shape_of_pointwise hx hv moved
  basis _ given := by
    cases given
    exact ⟨shape.size, rfl⟩
  coordinates _ hv hb := Tensor.coordinates_of_shape hb hv
  vector _ hc hb done := Tensor.shape_of_combine hc hb done

theorem weighted_shaped {shape : Shape} (axes : shape ≠ []) (entries : 0 ∉ shape) :
    (weighted shape : Manifold α).Shaped shape :=
  -- Only the metric differs, and it changes no shapes.
  have flat := euclidean_shaped (α := α) axes entries
  { axes := axes, entries := entries
    retract := fun {m x v q} hx hv moved => by
      cases m with
      | exponential => exact flat.retract (m := .exponential) hx hv moved
      | projection => exact flat.retract (m := .projection) hx hv moved
    basis := flat.basis, coordinates := flat.coordinates, vector := flat.vector }

theorem plain_shaped (n : Nat) (weight : α) : (plain (n + 1) weight).Shaped [n + 1] where
  axes := List.cons_ne_nil _ _
  entries := by simp
  retract {m} _ _ _ hx hv moved := by
    cases m with
    | exponential => exact Tensor.shape_of_pointwise hx hv moved
    | projection => cases moved
  basis _ given := by
    cases given
    exact ⟨n + 1, rfl⟩
  coordinates _ hv hb := Tensor.coordinates_of_shape hb hv
  vector _ hc hb done := Tensor.shape_of_combine hc hb done

namespace Sphere

variable {n : Nat} {x v q b : Tensor α}

theorem shape_of_exp (hx : x.shape = [n + 1]) (hv : v.shape = [n + 1]) (moved : exp x v = .ok q) :
    q.shape = [n + 1] := by
  obtain ⟨far, walked, rest⟩ := bind_eq_ok.mp moved
  obtain ⟨near, added, rest⟩ := bind_eq_ok.mp rest
  cases rest
  split
  · exact Tensor.shape_of_pointwise hx hv added
  · exact Tensor.shape_of_pointwise (x := x.scale _) (y := (v.map _).scale _) hx hv walked

theorem shape_of_retr (hx : x.shape = [n + 1]) (hv : v.shape = [n + 1]) (moved : retr x v = .ok q) :
    q.shape = [n + 1] := by
  obtain ⟨y, added, rest⟩ := bind_eq_ok.mp moved
  cases rest
  exact Tensor.shape_of_pointwise (z := y) hx hv added

theorem shape_of_basis (hx : x.shape = [n + 1]) (given : basis n x = .ok b) :
    b.shape = [n, n + 1] := by
  obtain ⟨e, unit, rest⟩ := bind_eq_ok.mp given
  have he : e.shape = [n + 1] := (Tensor.shape_of_setLast unit).trans hx
  obtain ⟨w, difference, rest⟩ := bind_eq_ok.mp rest
  have hw : w.shape = [n + 1] := Tensor.shape_of_pointwise hx he difference
  obtain ⟨ww, square, rest⟩ := bind_eq_ok.mp rest
  have hww : ww.shape = [] := by
    simp only [Tensor.dot, hw, List.reverse_singleton, if_true] at square
    cases square
    rfl
  -- The reflection is square: an outer product over a number, taken from the identity.
  obtain ⟨ratio, divided, rest⟩ := bind_eq_ok.mp rest
  have outer : ((w.outer w).scale (1 + 1)).shape = [n + 1, n + 1] := by
    change [w.entries.length, w.entries.length] = _
    rw [w.size_eq, hw, Shape.size_singleton]
  have hratio : ratio.shape = [n + 1, n + 1] :=
    (Tensor.shape_of_pointwise_item (y := ww.map _) (by rw [outer]; simp) hww divided).trans outer
  obtain ⟨householder, subtracted, rest⟩ := bind_eq_ok.mp rest
  have hh : householder.shape = [n + 1, n + 1] := Tensor.shape_of_pointwise rfl hratio subtracted
  obtain ⟨reflection, selected, rest⟩ := bind_eq_ok.mp rest
  cases rest
  have hr : reflection.shape = [n + 1, n + 1] := by
    obtain ⟨left, first, rest⟩ := bind_eq_ok.mp selected
    obtain ⟨right, _, rest⟩ := bind_eq_ok.mp rest
    have hl : left.shape = [n + 1, n + 1] := Tensor.shape_of_pointwise rfl hh first
    rw [hww, hl] at rest
    cases rest
    rfl
  -- Its last row is dropped, which belongs to the direction of the point itself.
  rw [Tensor.leading, hr]
  change [min n (n + 1), n + 1] = _
  rw [Nat.min_eq_left (Nat.le_succ n)]

end Sphere

theorem sphere_shaped (n : Nat) : (sphere n : Manifold α).Shaped [n + 1] where
  axes := List.cons_ne_nil _ _
  entries := by simp
  retract {m} _ _ _ hx hv moved := by
    cases m with
    | exponential => exact Sphere.shape_of_exp hx hv moved
    | projection => exact Sphere.shape_of_retr hx hv moved
  basis hx given := ⟨n, Sphere.shape_of_basis hx given⟩
  coordinates _ hv hb := Tensor.coordinates_of_shape hb hv
  vector _ hc hb done := Tensor.shape_of_combine hc hb done

end ManifoldOpt
