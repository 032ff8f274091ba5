import Mathlib.Data.List.GetD
import ManifoldOpt.Proofs.Manifold.Length
import ManifoldOpt.Proofs.Manifold.TangentBasis
import ManifoldOpt.Proofs.Stopping.Coupling

set_option autoImplicit false

namespace ManifoldOpt

open Matrix
open scoped RealInnerProductSpace

namespace Tensor

variable {m : ℕ} {A : Matrix (Fin m) (Fin m) ℝ} {x x' y y' : Tensor ℝ}

noncomputable def turn (A : Matrix (Fin m) (Fin m) ℝ) (x : Tensor ℝ) : Tensor ℝ :=
  ⟨[m], List.ofFn (A *ᵥ x.column m), by simp⟩

theorem column_turn (A : Matrix (Fin m) (Fin m) ℝ) (x : Tensor ℝ) :
    (x.turn A).column m = A *ᵥ x.column m := by
  funext i
  simp [Tensor.column, turn]

theorem CoordinateImage.turn (hx : x.shape = [m]) (A : Matrix (Fin m) (Fin m) ℝ) :
    CoordinateImage A x (x.turn A) := ⟨hx, rfl, column_turn A x⟩

theorem CoordinateImage.scale (image : CoordinateImage A x x') (c : ℝ) :
    CoordinateImage A (x.scale c) (x'.scale c) where
  source := image.source
  target := image.target
  column := by rw [column_scale, column_scale, image.column, mulVec_smul]

theorem CoordinateImage.zerosLike (image : CoordinateImage A x x') :
    CoordinateImage A x.zerosLike x'.zerosLike where
  source := image.source
  target := image.target
  column := by
    have zero (y : Tensor ℝ) : y.zerosLike.column m = 0 := by
      funext i
      simp [Tensor.column, Tensor.zerosLike, zeros, fill]
    rw [zero, zero, mulVec_zero]

theorem CoordinateImage.combination (hx : CoordinateImage A x x') (hy : CoordinateImage A y y')
    {z z' : Tensor ℝ} {a b : ℝ} (hz : z.shape = [m]) (hz' : z'.shape = [m])
    (source : z.toVector [m] = a • x.toVector [m] + b • y.toVector [m])
    (target : z'.toVector [m] = a • x'.toVector [m] + b • y'.toVector [m]) :
    CoordinateImage A z z' where
  source := hz
  target := hz'
  column := by
    have left : z.column m = a • x.column m + b • y.column m := by
      rw [column_eq_toVector, source]
      rfl
    have right : z'.column m = a • x'.column m + b • y'.column m := by
      rw [column_eq_toVector, target]
      rfl
    rw [left, right, hx.column, hy.column, mulVec_add, mulVec_smul, mulVec_smul]

section Orthogonal

variable (orthogonal : Aᵀ * A = 1)

include orthogonal

theorem CoordinateImage.turn_back (image : CoordinateImage A x x') : x'.turn Aᵀ = x := by
  have size : Shape.size [m] = m := Shape.size_singleton m
  refine @ext_column [m] _ _ rfl image.source ?_
  rw [size, column_turn, image.column, mulVec_mulVec, orthogonal, one_mulVec]

theorem CoordinateImage.inner (hx : CoordinateImage A x x') (hy : CoordinateImage A y y') :
    ⟪x'.toVector [m], y'.toVector [m]⟫ = ⟪x.toVector [m], y.toVector [m]⟫ := by
  rw [inner_eq_dotProduct hx.target hy.target, inner_eq_dotProduct hx.source hy.source, hx.column,
    hy.column, dotProduct_mulVec, vecMul_mulVec, orthogonal, vecMul_one]

theorem CoordinateImage.norm (image : CoordinateImage A x x') :
    ‖x'.toVector [m]‖ = ‖x.toVector [m]‖ := by
  rw [norm_eq_sqrt_real_inner, norm_eq_sqrt_real_inner, image.inner orthogonal image]

end Orthogonal

end Tensor

namespace Sphere

open Tensor (CoordinateImage)

variable {n : ℕ} {R : Matrix (Fin (n + 1)) (Fin (n + 1)) ℝ} (orthogonal : Rᵀ * R = 1)
  {x x' v v' : Tensor ℝ} (hx : CoordinateImage R x x') (hv : CoordinateImage R v v')

include orthogonal

section Retractions

include hx hv

theorem exp_image : Outcome.Agree (CoordinateImage R) (exp x v) (exp x' v') := by
  obtain ⟨q, moved, shape, vector⟩ := exp_of_shape hx.source hv.source
  obtain ⟨q', moved', shape', vector'⟩ := exp_of_shape hx.target hv.target
  rw [moved, moved']
  rw [hv.norm orthogonal] at vector'
  -- Both steps are short, or both go along great circles.
  split at vector
  next short =>
    rw [if_pos short] at vector'
    refine .ok (hx.combination hv shape shape' (a := 1) (b := 1) ?_ ?_)
    · rw [vector, one_smul, one_smul]
    · rw [vector', one_smul, one_smul]
  next long =>
    rw [if_neg long, smul_smul] at vector'
    rw [smul_smul] at vector
    exact .ok (hx.combination hv shape shape' vector vector')

theorem retr_image : Outcome.Agree (CoordinateImage R) (retr x v) (retr x' v') := by
  obtain ⟨y, -, shape, vector, moved⟩ := retr_of_shape hx.source hv.source
  obtain ⟨y', -, shape', vector', moved'⟩ := retr_of_shape hx.target hv.target
  have sum : CoordinateImage R y y' := by
    refine hx.combination hv shape shape' (a := 1) (b := 1) ?_ ?_
    · rw [vector, one_smul, one_smul]
    · rw [vector', one_smul, one_smul]
  have length : y'.length = y.length := by
    rw [Tensor.length_toVector shape, Tensor.length_toVector shape', sum.norm orthogonal]
  rw [moved, moved', length]
  refine .ok (sum.combination sum shape shape' (a := y.length⁻¹) (b := 0) ?_ ?_)
  · rw [Tensor.toVector_quotient, zero_smul, add_zero]
  · rw [Tensor.toVector_quotient, zero_smul, add_zero]

theorem retract_image (method : Literal ℝ) :
    Outcome.Agree (CoordinateImage R) ((sphere n).retract x v method)
      ((sphere n).retract x' v' method) := by
  unfold Manifold.retract
  cases (sphere n).retraction method with
  | error e => exact .error e
  | ok chosen =>
    cases chosen with
    | exponential => exact exp_image orthogonal hx hv
    | projection => exact retr_image orthogonal hx hv

end Retractions

theorem isometric : (sphere n).Isometric (CoordinateImage R) where
  dist {p q x y} points others := by
    obtain ⟨t, -, shape, vector⟩ := split_of_shape points.source others.source
    obtain ⟨t', -, shape', vector'⟩ := split_of_shape points.target others.target
    rw [points.inner orthogonal others] at vector'
    have tangential : CoordinateImage R t t' := by
      refine others.combination points shape shape' (a := 1)
        (b := -⟪p.toVector [n + 1], x.toVector [n + 1]⟫) ?_ ?_
      · rw [vector, one_smul, neg_smul, sub_eq_add_neg]
      · rw [vector', one_smul, neg_smul, sub_eq_add_neg]
    have same : (sphere n).dist p x = (sphere n).dist q y := by
      change Sphere.dist p x = Sphere.dist q y
      rw [dist_of_shape points.source others.source, dist_of_shape points.target others.target,
        points.inner orthogonal others, ← vector, ← vector', tangential.norm orthogonal]
    rw [Manifold.distNumber, Manifold.distNumber, same]
  norm points vectors := by
    rw [normNumber_of_shape vectors.source, normNumber_of_shape vectors.target,
      Tensor.length_toVector vectors.source, Tensor.length_toVector vectors.target,
      vectors.norm orthogonal]

end Sphere

end ManifoldOpt
