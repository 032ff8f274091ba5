import ManifoldOpt.Proofs.Manifold.Length
import ManifoldOpt.Proofs.Stepsize.Sign

set_option autoImplicit false

namespace ManifoldOpt

open Outcome

def Manifold.Moves (M : Manifold ℝ) (p v : Tensor ℝ) : Prop :=
  ∃ norm, M.normNumber p v = .ok norm ∧ Tolerance.machine < norm

namespace StepRule

def withKind {α : Type} (kind : StepKind) : StepRule α → StepRule α
  | base => base
  | constant length _ => constant length kind
  | decreasing length factor subtrahend exponent shift _ =>
    decreasing length factor subtrahend exponent shift kind

variable {M : Manifold ℝ} {p v w : Tensor ℝ} {k : Number ℝ} {r : StepRule ℝ} {s t length : ℝ}

theorem relative_lengthAt (given : (r.withKind .relative).lengthAt M p v k = .ok t) (w : Tensor ℝ) :
    (r.withKind .relative).lengthAt M p w k = .ok t := by
  cases r <;> exact given

theorem absolute_lengthAt (given : (r.withKind .absolute).lengthAt M p v k = .ok s) :
    ∃ t norm, (r.withKind .relative).lengthAt M p v k = .ok t ∧ M.normNumber p v = .ok norm ∧
      s = normalize t norm := by
  cases r with
  | base => cases given
  | constant length =>
    obtain ⟨norm, measured, rest⟩ := bind_eq_ok.mp given
    cases rest
    exact ⟨length, norm, rfl, measured, rfl⟩
  | decreasing =>
    obtain ⟨t, decreased, rest⟩ := bind_eq_ok.mp given
    obtain ⟨norm, measured, rest⟩ := bind_eq_ok.mp rest
    cases rest
    exact ⟨t, norm, decreased, measured, rfl⟩

theorem length_normalize (moves : Tolerance.machine < v.length) (t : ℝ) :
    (v.scale (-normalize t v.length)).length = |t| := by
  have positive : 0 < v.length := (lt_of_not_ge Scalar.Signed.machine).trans moves
  rw [normalize, if_pos moves, Tensor.length_scale, abs_neg, abs_div, abs_of_pos positive,
    div_mul_cancel₀ _ positive.ne']

theorem scale_normalize {c : ℝ} (positive : 0 < c)
    (long : v = v.zerosLike ∨
      Tolerance.machine < v.length ∧ Tolerance.machine < (v.scale c).length) (t : ℝ) :
    (v.scale c).scale (-normalize t (v.scale c).length) = v.scale (-normalize t v.length) := by
  obtain zero | ⟨moves, moves'⟩ := long
  · rw [Tensor.scale_of_zeros zero]
  · have length_pos : 0 < v.length := (lt_of_not_ge Scalar.Signed.machine).trans moves
    rw [Tensor.scale_scale, normalize, if_pos moves', normalize, if_pos moves, Tensor.length_scale,
      abs_of_pos positive]
    congr 1
    field_simp

end StepRule

end ManifoldOpt
