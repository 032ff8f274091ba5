import ManifoldOpt.Newton.System
import ManifoldOpt.Proofs.Coupling
import ManifoldOpt.Proofs.Manifold.Shaped

set_option autoImplicit false

namespace ManifoldOpt

variable {α : Type} [Scalar α]

open Attempt

def Procedure.IgnoresEvents : Procedure α → Prop
  | .allocating f => ∀ p, Attempt.IgnoresEvents (f p)
  | .inPlace _ f => ∀ buffer p, Attempt.IgnoresEvents (f buffer p)

omit [Scalar α] in
theorem Procedure.IgnoresEvents.evaluate {f : Procedure α} (ignores : f.IgnoresEvents)
    (buffer p : Tensor α) : Attempt.IgnoresEvents (f.evaluate buffer p) := by
  cases f with
  | allocating f =>
    refine Couples.bind_eq (ignores p) fun value => ?_
    cases value with
    | none => exact couples_throw _
    | some value => exact couples_pure rfl
  | inPlace name f =>
    refine Couples.bind_eq (ignores (.ok buffer) p) fun value => ?_
    cases value with
    | none => exact couples_throw _
    | some value => exact couples_pure rfl

namespace RootProblem

variable {problem : RootProblem α}

structure IgnoresEvents (problem : RootProblem α) : Prop where
  map : problem.map.IgnoresEvents
  derivative : ∀ p, Attempt.IgnoresEvents (problem.derivative p)

variable (ignores : problem.IgnoresEvents) (base : Tensor α) (residual : Option (Tensor α))
  (transport : Literal α)

include ignores

theorem IgnoresEvents.rightHandSide :
    Attempt.IgnoresEvents (problem.rightHandSide base residual transport) := by
  have image (q : Tensor α) : Attempt.IgnoresEvents (problem.mapAt q) :=
    Couples.lift_bind fun buffer _ => ignores.map.evaluate buffer q
  refine Couples.bind_eq (image _) fun value => Couples.lift_bind fun connected _ => ?_
  cases residual with
  | none => exact Couples.lift_bind fun factor _ => couples_pure rfl
  | some q =>
    exact Couples.lift_bind fun moved _ => Couples.lift_bind fun factor _ => couples_pure rfl

theorem IgnoresEvents.newtonSystem :
    Attempt.IgnoresEvents (problem.newtonSystem base residual transport) := by
  refine Couples.lift_bind fun _ _ => Couples.lift_bind fun basis _ => ?_
  refine Couples.lift_bind fun fiberBasis _ => ?_
  refine Couples.bind_eq (ignores.derivative base) fun operator => ?_
  refine Couples.lift_bind fun matrix _ => ?_
  refine Couples.bind_eq (ignores.rightHandSide base residual transport) fun rhs => ?_
  exact Couples.lift_bind fun value _ => couples_pure rfl

theorem IgnoresEvents.newtonVector (check : ConditionCheck α) :
    Attempt.IgnoresEvents (problem.newtonVector check base residual transport) := by
  refine Couples.bind_eq (ignores.newtonSystem base residual transport) fun system => ?_
  exact Couples.lift_bind fun _ _ => Couples.lift_bind fun c _ => couples_outcome _

end RootProblem

omit [Scalar α] in
theorem length_of_mapM {β γ : Type} {f : β → Outcome α γ} {xs : List β} {ys : List γ}
    (done : xs.mapM f = .ok ys) : ys.length = xs.length := by
  induction xs generalizing ys with
  | nil =>
    cases done
    rfl
  | cons x xs ih =>
    rw [List.mapM_cons] at done
    obtain ⟨y, _, rest⟩ := Outcome.bind_eq_ok.mp done
    obtain ⟨others, mapped, rest⟩ := Outcome.bind_eq_ok.mp rest
    cases rest
    rw [List.length_cons, List.length_cons, ih mapped]

namespace Tensor

omit [Scalar α] in
theorem length_slices {count : Nat} {shape : Shape} {x : Tensor α} {xs : List (Tensor α)}
    (hx : x.shape = count :: shape) (done : x.slices = .ok xs) : xs.length = count := by
  unfold slices at done
  split at done
  · cases done
  · rename_i given
    cases done
    rw [hx] at given
    cases given
    simp

theorem shape_of_columns {vectors : List (Tensor α)} {a : Tensor α}
    (done : columns vectors = .ok a) : vectors ≠ [] ∧ ∃ m, a.shape = [m, vectors.length] := by
  unfold columns at done
  split at done
  · cases done
  · split at done
    · split at done
      · cases done
        exact ⟨List.cons_ne_nil _ _, _, rfl⟩
      · cases done
    · cases done

end Tensor

structure NewtonSystem.Shaped (system : NewtonSystem α) (shape : Shape) (m count : Nat) : Prop where
  basis : system.basis.shape = (count + 1) :: shape
  matrix : system.matrix.shape = [m, count + 1]

theorem RootProblem.newtonSystem_shaped {problem : RootProblem α} {shape : Shape}
    (shaped : problem.manifold.Shaped shape) {base : Tensor α} {residual : Option (Tensor α)}
    {transport : Literal α} (inside : base.shape = shape) {s t : Trail α} {system : NewtonSystem α}
    (posed : problem.newtonSystem base residual transport s = .ok system t) :
    ∃ m count, system.Shaped shape m count := by
  obtain ⟨_, -, rest⟩ := liftM_bind_eq_ok.mp posed
  obtain ⟨basis, given, rest⟩ := liftM_bind_eq_ok.mp rest
  obtain ⟨count, hb⟩ := shaped.basis inside given
  obtain ⟨fiberBasis, _, _, rest⟩ := bind_eq_ok.mp rest
  obtain ⟨operator, _, _, rest⟩ := bind_eq_ok.mp rest
  obtain ⟨matrix, columns, rest⟩ := liftM_bind_eq_ok.mp rest
  obtain ⟨rhs, _, _, rest⟩ := bind_eq_ok.mp rest
  obtain ⟨value, _, _, rest⟩ := bind_eq_ok.mp rest
  obtain ⟨rfl, -⟩ := pure_eq_ok.mp rest
  obtain ⟨vectors, sliced, rest⟩ := Outcome.bind_eq_ok.mp columns
  obtain ⟨images, mapped, stacked⟩ := Outcome.bind_eq_ok.mp rest
  obtain ⟨some_image, m, hm⟩ := Tensor.shape_of_columns stacked
  have length : images.length = count :=
    (length_of_mapM mapped).trans (Tensor.length_slices hb sliced)
  rw [length] at hm
  -- Columns are only made of some images, so that the basis is not empty.
  cases count with
  | zero => exact absurd (List.eq_nil_of_length_eq_zero length) some_image
  | succ count => exact ⟨m, count, hb, hm⟩

theorem requireFinite_eq_ok {x y : Tensor α} (finite : requireFinite x = .ok y) : x = y := by
  unfold requireFinite at finite
  split at finite
  · exact Except.ok.inj finite
  · cases finite

theorem shape_of_solveDirect {matrix value c : Tensor α} {m n : Nat} (square : matrix.shape = [m, n])
    (solved : solveDirect matrix value = .ok c) : value.shape = [m] ∧ ∃ k, c.shape = [k] := by
  obtain ⟨c', eliminated, finite⟩ := Outcome.bind_eq_ok.mp solved
  obtain rfl := requireFinite_eq_ok finite
  unfold solveLinear at eliminated
  split at eliminated
  · rename_i rows k given hv
    split at eliminated
    · rename_i size
      cases eliminated
      refine ⟨?_, _, rfl⟩
      unfold Tensor.squareRows? at given
      rw [square] at given
      simp only [Option.ite_none_right_eq_some, Option.some.injEq] at given
      obtain ⟨-, rfl⟩ := given
      rw [hv, ← size, length_blocks]
    · cases eliminated
  · cases eliminated

theorem shape_of_solveIteratively {method : LinearSystem α → α → List α → List α}
    {matrix value c : Tensor α} {start : Option (Tensor α)} {tolerance : Literal α}
    (solved : solveIteratively method matrix value start tolerance = .ok c) :
    ∃ k, c.shape = [k] := by
  obtain ⟨⟨system, first⟩, _, rest⟩ := Outcome.bind_eq_ok.mp solved
  obtain ⟨bound, _, finite⟩ := Outcome.bind_eq_ok.mp rest
  obtain rfl := requireFinite_eq_ok finite
  exact ⟨_, rfl⟩

theorem shape_of_solveBy {method : Literal α} {matrix value c : Tensor α} {start : Option (Tensor α)}
    {tolerance : Literal α} {m n : Nat} (square : matrix.shape = [m, n])
    (solved : solveBy method matrix value start tolerance = .ok c) : ∃ k, c.shape = [k] := by
  unfold solveBy at solved
  split at solved
  · exact (shape_of_solveDirect square solved).2
  · exact shape_of_solveIteratively solved
  · exact shape_of_solveIteratively solved
  · cases solved

end ManifoldOpt
