import ManifoldOpt.Tensor.Product

set_option autoImplicit false

namespace ManifoldOpt

variable {α : Type} [Scalar α]

namespace Tensor

variable {shape : Shape} {x y z : Tensor α}

theorem pointwise_of_shape (f : α → α → α) (same : x.shape = y.shape) :
    pointwise f x y = .ok (zipSame f x y same) := by
  simp [pointwise, same]

theorem shape_of_pointwise {f : α → α → α} (hx : x.shape = shape) (hy : y.shape = shape)
    (done : pointwise f x y = .ok z) : z.shape = shape := by
  rw [pointwise_of_shape f (hx.trans hy.symm)] at done
  cases done
  exact hx

theorem shape_of_pointwise_item {f : α → α → α} (axes : x.shape ≠ []) (hy : y.shape = [])
    (done : pointwise f x y = .ok z) : z.shape = x.shape := by
  -- Only the right one is a single entry, so that it meets every entry of the left one.
  have left : x.item? = none := by simp [item?, axes]
  obtain ⟨a, right⟩ : ∃ a, y.item? = some a := by
    have size := y.size_eq
    rw [hy] at size
    obtain ⟨a, entries⟩ := List.length_eq_one_iff.mp size
    exact ⟨a, by simp [item?, hy, entries]⟩
  have differ : x.shape ≠ y.shape := by rwa [hy]
  rw [pointwise, dif_neg differ, left, right] at done
  cases done
  rfl

theorem pointwise_left (same : x.shape = y.shape) : pointwise (fun a _ => a) x y = .ok x := by
  rw [pointwise_of_shape _ same]
  refine congrArg _ (ext rfl (List.ext_getElem ?_ fun i _ _ => ?_))
  · simp [zipSame, x.size_eq, y.size_eq, same]
  · simp [zipSame]

theorem pointwise_right (same : x.shape = y.shape) : pointwise (fun _ b => b) x y = .ok y := by
  rw [pointwise_of_shape _ same]
  refine congrArg _ (ext same (List.ext_getElem ?_ fun i _ _ => ?_))
  · simp [zipSame, x.size_eq, y.size_eq, same]
  · simp [zipSame]

theorem scalar_mul (axes : x.shape ≠ []) (c : α) : (scalar c).mul x = .ok (x.scale c) := by
  have apart : (scalar c).shape ≠ x.shape := axes.symm
  rw [mul, pointwise, dif_neg apart, item?_scalar]
  rfl

theorem shape_of_setLast {a : α} (done : x.setLast a = .ok z) : z.shape = x.shape := by
  unfold setLast at done
  split at done
  · cases done
  · cases done
  · cases done
    rfl

theorem coordinates_of_shape {count : Nat} {basis v : Tensor α}
    (hb : basis.shape = (count + 1) :: shape) (hv : v.shape = shape) :
    ∃ c, coordinates basis v.ravel = .ok c ∧ c.shape = [count + 1] := by
  have size : Shape.size shape = v.ravel.entries.length := by
    rw [← hv, ← v.size_eq]
    rfl
  simp only [coordinates, hb, size, if_true]
  exact ⟨_, rfl, rfl⟩

theorem shape_of_combine {k count : Nat} {c basis : Tensor α} (hc : c.shape = [k])
    (hb : basis.shape = count :: shape) (done : combine c basis = .ok z) : z.shape = shape := by
  simp only [combine, hc, hb, List.reverse_singleton] at done
  split at done
  · cases done
    rfl
  · cases done

section Flattening

omit [Scalar α]

theorem shape_ravel (hx : x.shape = shape) : x.ravel.shape = [Shape.size shape] := by
  rw [← hx, ← x.size_eq]
  rfl

theorem entries_ravel (x : Tensor α) : x.ravel.entries = x.entries := rfl

theorem exists_ravel (hy : y.shape = [Shape.size shape]) :
    ∃ x : Tensor α, x.shape = shape ∧ x.ravel = y := by
  have full : y.entries.length = Shape.size shape := by
    rw [y.size_eq, hy, Shape.size_singleton]
  exact ⟨⟨shape, y.entries, full⟩, rfl, ext ((shape_ravel rfl).trans hy.symm) rfl⟩

theorem reshape_ravel (hx : x.shape = shape) : x.ravel.reshape shape = .ok x := by
  subst hx
  have size : Shape.size x.ravel.shape = Shape.size x.shape := by
    rw [shape_ravel rfl, Shape.size_singleton]
  rw [reshape, reshape?, dif_pos size]
  rfl

theorem tabulate_eq_map {f : Nat → α} {g : α → α} (hx : x.shape = shape)
    (same : ∀ i (inside : i < x.entries.length), f i = g x.entries[i]) :
    tabulate shape f = x.map g := by
  subst hx
  refine ext rfl (List.ext_getElem (by simp [tabulate, x.size_eq]) fun i _ inside => ?_)
  have entry := same i (by simpa using inside)
  simpa [tabulate] using entry

end Flattening

end Tensor

end ManifoldOpt
