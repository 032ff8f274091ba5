import ManifoldOpt.Proofs.Newton.Inner
import ManifoldOpt.Proofs.Solver.History

set_option autoImplicit false

namespace ManifoldOpt

variable {α : Type} [Scalar α]

open Attempt

section Posed

variable {e : NewtonEquation α} {problem : RootProblem α} {base v : Tensor α}
  {system : NewtonSystem α} {m count : Nat}

theorem NewtonEquation.Posed.shape_of_gives (posed : e.Posed problem base system m count)
    (given : e.Gives v) : v.shape = base.shape := by
  obtain ⟨stored, solved, combined⟩ := given
  obtain rfl := Option.some.inj (posed.stored.symm.trans stored)
  obtain ⟨k, hc⟩ := shape_of_solveBy posed.shaped.matrix solved
  rw [posed.vector] at combined
  exact posed.manifold.vector rfl hc posed.shaped.basis combined

theorem LinearState.solver_keeps_shape (posed : e.Posed problem base system m count) :
    (solver e).Preserves none fun r => ∀ v ∈ r.own.vector, v.shape = base.shape := by
  let P (own : LinearState α) (_ : Option α) : Prop := ∀ v ∈ own.vector, v.shape = base.shape
  refine Solver.preserves_own (P := P) (keeps_pure _) fun k => ?_
  refine step_keeps (I := fun r => P r.own r.lastStepsize) fun r v given _ w found => ?_
  cases found
  exact posed.shape_of_gives given

end Posed

namespace CountingState

variable {shape : Shape}

omit [Scalar α] in
theorem shape_of_replacePoint {p : Tensor α} {s s' : CountingState α}
    (moved : replacePoint p s = .ok s') : s'.point.shape = p.shape := by
  obtain ⟨q, copied, rest⟩ := Outcome.bind_eq_ok.mp moved
  cases rest
  exact congrArg Tensor.shape (copyTo_eq_ok copied)

theorem shape_of_firstUnit {p v : Tensor α} (given : firstUnit p = .ok v) : v.shape = p.shape := by
  unfold firstUnit at given
  split at given
  · cases given
  · cases given
  · cases given
    rfl

theorem advance_keeps_shape :
    Keeps (fun s => s.state.own.point.shape = shape)
      (advance : Running α (CountingState α) Unit) := by
  let I (r : Run α (CountingState α)) : Prop := r.own.point.shape = shape
  intro s before
  refine Keeps.lift_bind (I := fun s => I s.state) (fun v given => ?_) s before
  have hv : v.shape = shape := (shape_of_firstUnit given).trans before
  refine (Running.keeps_modifyOwn (I := I) fun _ same => same).bind fun _ => ?_
  refine Keeps.lift_bind fun p added => ?_
  have hp : p.shape = shape := Tensor.shape_of_pointwise before hv added
  exact (Running.keeps_modifyOwn (I := I) fun _ _ => hp).bind fun _ _ same => same

theorem solver_keeps_shape (M : Outcome α (Manifold α)) :
    (solver M none).Preserves none fun r => r.own.point.shape = shape := by
  let P (own : CountingState α) (_ : Option α) : Prop := own.point.shape = shape
  have noted (call : CountedCall) :
      Keeps (fun s => P s.state.own s.state.lastStepsize) (note call) :=
    Running.keeps_modifyOwn (I := fun r => P r.own r.lastStepsize) fun _ same => same
  refine Solver.preserves_own (P := P) (noted .setUp) fun k => ?_
  refine Keeps.bind ?_ fun _ => (noted (.step k)).bind fun _ => advance_keeps_shape
  exact (Running.keeps_getOwn fun r => P r.own r.lastStepsize).bind fun own =>
    Keeps.ite (fun _ => keeps_throw _) fun _ => keeps_pure _

end CountingState

namespace InnerRun

variable {e : NewtonEquation α} {problem : RootProblem α} {base p v : Tensor α}
  {system : NewtonSystem α} {m count : Nat}

theorem shape_of_solveFrom (posed : e.Posed problem base system m count)
    (hp : p.shape = base.shape) {s t : Stage α (InnerRun α)} (found : solveFrom e p s = .ok v t) :
    v.shape = base.shape := by
  obtain ⟨_, -, rest⟩ := liftM_bind_eq_ok.mp found
  rw [Stage.getState_bind] at rest
  cases inner : s.state with
  | linear r =>
    -- The run starts over from an array of the shape; the vectors after it solve the system.
    rw [inner] at rest
    obtain ⟨u, run, -⟩ := Stage.within_eq_ok.mp rest
    rw [Running.modifyOwn_bind] at run
    obtain ⟨_, w, solved, read⟩ := bind_eq_ok.mp run
    have started : ∀ v ∈ (r.own.replaceVector p).vector, v.shape = base.shape := by
      rintro _ ⟨rfl⟩
      exact hp
    have ended := ((LinearState.solver_keeps_shape posed).solve _).of_ok started solved
    rw [Running.getOwn_bind] at read
    cases last : w.state.own.vector with
    | none =>
      rw [last] at read
      cases read
    | some w' =>
      rw [last] at read
      cases read
      exact ended v last
  | counting r =>
    -- This solver takes the shape of the array that it is given for its point.
    rw [inner] at rest
    obtain ⟨u, run, -⟩ := Stage.within_eq_ok.mp rest
    rw [Running.getOwn_bind] at run
    obtain ⟨moved, replaced, run⟩ := liftM_bind_eq_ok.mp run
    rw [Running.modifyOwn_bind] at run
    obtain ⟨_, w, solved, read⟩ := bind_eq_ok.mp run
    have started : moved.point.shape = base.shape :=
      (CountingState.shape_of_replacePoint replaced).trans hp
    have ended := ((CountingState.solver_keeps_shape e.manifold).solve _).of_ok started solved
    cases read
    exact ended

end InnerRun

structure NewtonEquation.SameWork (e e' : NewtonEquation α) (problem problem' : RootProblem α)
    (base : Tensor α) (system : NewtonSystem α) : Prop where
  posed : e.posed = .ok (problem, base, system)
  posed' : e'.posed = .ok (problem', base, system)
  stored : e'.system = e.system
  manifold : problem'.manifold = problem.manifold

section SameWork

variable {e e' : NewtonEquation α} {problem problem' : RootProblem α} {base : Tensor α}
  {system : NewtonSystem α} (same : e.SameWork e' problem problem' base system)

include same

theorem NewtonEquation.SameWork.manifold_eq : e'.manifold = e.manifold := by
  unfold NewtonEquation.manifold
  rw [same.posed, same.posed']
  rfl

theorem NewtonEquation.SameWork.coordinates_eq : e'.coordinates = e.coordinates := by
  funext v
  unfold NewtonEquation.coordinates
  rw [same.posed, same.posed']
  change problem'.manifold.coordinates base v _ = _
  rw [same.manifold]
  rfl

theorem NewtonEquation.SameWork.vector_eq : e'.vector = e.vector := by
  funext c
  unfold NewtonEquation.vector
  rw [same.posed, same.posed']
  change problem'.manifold.vector base c _ = _
  rw [same.manifold]
  rfl

theorem NewtonEquation.SameWork.residualNorm_eq : e'.residualNorm = e.residualNorm := by
  funext v
  unfold NewtonEquation.residualNorm
  rw [same.posed, same.posed', same.coordinates_eq]
  rfl

theorem LinearState.solver_eq_of_sameWork : solver e' = solver e := by
  have stepped : step e' = step e := by
    unfold step
    rw [same.coordinates_eq, same.vector_eq, same.residualNorm_eq, same.stored]
  unfold solver
  rw [stepped, same.manifold_eq]

theorem InnerRun.solveFrom_eq_of_sameWork : solveFrom e' = solveFrom e := by
  unfold solveFrom
  rw [same.manifold_eq, LinearState.solver_eq_of_sameWork same]

end SameWork

end ManifoldOpt
