import ManifoldOpt.Newton.Equation
import ManifoldOpt.Proofs.Newton.System
import ManifoldOpt.Proofs.Solver.Course

set_option autoImplicit false

namespace ManifoldOpt

variable {α : Type} [Scalar α]

open Attempt

def RootProblem.answer (problem : RootProblem α) (base : Tensor α) (system : NewtonSystem α) :
    Outcome α (Tensor α) := do
  let c ← solveDirect system.matrix system.value
  problem.manifold.vector base c (some system.basis)

structure NewtonEquation.Posed (e : NewtonEquation α) (problem : RootProblem α) (base : Tensor α)
    (system : NewtonSystem α) (m count : Nat) : Prop where
  source : e.source = some (problem, base)
  stored : e.system = some system
  manifold : problem.manifold.Shaped base.shape
  shaped : system.Shaped base.shape m count

section Posed

variable {e : NewtonEquation α} {problem : RootProblem α} {base v : Tensor α}
  {system : NewtonSystem α} {m count : Nat} (posed : e.Posed problem base system m count)

include posed

theorem NewtonEquation.Posed.posed_eq : e.posed = .ok (problem, base, system) := by
  rw [NewtonEquation.posed, posed.source, posed.stored]

theorem NewtonEquation.Posed.manifold_eq : e.manifold = .ok (euclidean base.shape) := by
  have axes : base.shape.isEmpty = false := by simpa using posed.manifold.axes
  have entries : base.shape.contains 0 = false := by simpa using posed.manifold.entries
  unfold NewtonEquation.manifold
  rw [posed.posed_eq]
  change (if base.shape.isEmpty = true then _ else _) = _
  rw [axes, if_neg (by simp), entries, if_neg (by simp)]
  rfl

theorem NewtonEquation.Posed.coordinates (hv : v.shape = base.shape) :
    ∃ c, e.coordinates v = .ok c ∧ c.shape = [count + 1] := by
  obtain ⟨c, taken, hc⟩ := posed.manifold.coordinates rfl hv posed.shaped.basis
  refine ⟨c, ?_, hc⟩
  unfold NewtonEquation.coordinates
  rw [posed.posed_eq]
  exact taken

theorem NewtonEquation.Posed.vector (c : Tensor α) :
    e.vector c = problem.manifold.vector base c (some system.basis) := by
  unfold NewtonEquation.vector
  rw [posed.posed_eq]
  rfl

theorem NewtonEquation.Posed.residualNorm (hv : v.shape = base.shape)
    (hvalue : system.value.shape = [m]) : ∃ size, e.residualNorm v = .ok size := by
  obtain ⟨c, taken, hc⟩ := posed.coordinates hv
  obtain ⟨image, applied, himage⟩ : ∃ image, system.matrix.apply c = .ok image ∧
      image.shape = [m] := by
    unfold Tensor.apply
    rw [posed.shaped.matrix, hc]
    exact ⟨_, if_pos rfl, rfl⟩
  obtain ⟨rest, subtracted⟩ : ∃ rest, image.sub system.value = .ok rest :=
    ⟨_, Tensor.pointwise_of_shape _ (himage.trans hvalue.symm)⟩
  refine ⟨rest.length, Outcome.bind_eq_ok.mpr ⟨(problem, base, system), posed.posed_eq, ?_⟩⟩
  refine Outcome.bind_eq_ok.mpr ⟨c, taken, Outcome.bind_eq_ok.mpr ⟨image, applied, ?_⟩⟩
  exact Outcome.bind_eq_ok.mpr ⟨rest, subtracted, rfl⟩

theorem NewtonEquation.Posed.answer_shape (solved : problem.answer base system = .ok v) :
    v.shape = base.shape ∧ system.value.shape = [m] := by
  obtain ⟨c, direct, combined⟩ := Outcome.bind_eq_ok.mp solved
  obtain ⟨hvalue, k, hc⟩ := shape_of_solveDirect posed.shaped.matrix direct
  exact ⟨posed.manifold.vector rfl hc posed.shaped.basis combined, hvalue⟩

end Posed

namespace LinearState

/-- A run of the solver that solves directly, in one step and without records. -/
structure Direct (r : Run α (LinearState α)) : Prop where
  method : r.own.method = .string "direct"
  budget : ∃ cell, r.stop.root = .afterIteration cell (.int 1)
  unrecorded : r.recorder = none

omit [Scalar α] in
theorem direct_start {tolerance : Literal α} {own : LinearState α}
    (started : start (.string "direct") tolerance = .ok own) :
    Direct { stop := defaultStop, own } := by
  cases started
  exact ⟨rfl, ⟨0, rfl⟩, rfl⟩

section Driver

variable {e : NewtonEquation α} {s : Stage α (Run α (LinearState α))} (direct : Direct s.state)

include direct

theorem Direct.prepare :
    (solver e).prepare none s = .ok () { s with state := { s.state with iteration := 0 } } := by
  refine bind_eq_ok.mpr ⟨(), s, rfl, bind_eq_ok.mpr ⟨(), _, rfl, ?_⟩⟩
  refine bind_eq_ok.mpr ⟨{ s.state with iteration := 0 }, _, rfl, ?_⟩
  exact Solver.withRecorder_none direct.unrecorded

theorem Direct.asked (k : Nat) :
    ∃ t, (solver e).shouldStop k s = .ok (decide (1 ≤ k)) t ∧ t.trail.tally = s.trail.tally ∧
      Direct t.state ∧ t.state.own = s.state.own := by
  obtain ⟨cell, root⟩ := direct.budget
  obtain ⟨t, asked, tally, memory, left⟩ := (solver e).shouldStop_budget k root
  have answer : (Number.int 1 : Number α).le (.int k) = decide (1 ≤ k) := by
    change decide ((1 : Int) ≤ (k : Int)) = _
    exact decide_eq_decide.mpr (by omega)
  rw [answer] at asked
  refine ⟨t, asked, tally, ?_, by rw [left]⟩
  rw [left]
  exact ⟨direct.method, ⟨cell, root⟩, direct.unrecorded⟩

end Driver

variable {e : NewtonEquation α} {problem : RootProblem α} {base : Tensor α}
  {system : NewtonSystem α} {m count : Nat} {s : Stage α (Run α (LinearState α))} {w : Tensor α}
  (posed : e.Posed problem base system m count) (direct : Direct s.state)
  (current : s.state.own.vector = some w) (hw : w.shape = base.shape)

include posed direct current hw

theorem step_ok {v : Tensor α} (k : Int) (solved : problem.answer base system = .ok v) :
    ∃ event, step e k s = .ok () (Stage.noting event
      { s with state := { s.state with own := { s.state.own with vector := some v } } }) := by
  -- The direct method takes the coordinates of the current vector and does not use them; a solution
  -- has the shapes to measure its residual.
  obtain ⟨first, taken, -⟩ := posed.coordinates hw
  obtain ⟨hv, hvalue⟩ := posed.answer_shape solved
  obtain ⟨size, measured⟩ := posed.residualNorm hv hvalue
  obtain ⟨c, eliminated, combined⟩ := Outcome.bind_eq_ok.mp solved
  rw [← posed.vector] at combined
  refine ⟨.residual k size, bind_eq_ok.mpr ⟨s.state.own, s, rfl, ?_⟩⟩
  rw [current, direct.method, posed.stored]
  refine liftM_bind_eq_ok.mpr ⟨first, taken, ?_⟩
  refine bind_eq_ok.mpr ⟨some first, s, rfl, ?_⟩
  refine liftM_bind_eq_ok.mpr ⟨c, eliminated, ?_⟩
  refine liftM_bind_eq_ok.mpr ⟨v, combined, ?_⟩
  refine bind_eq_ok.mpr ⟨(), _, rfl, ?_⟩
  exact liftM_bind_eq_ok.mpr ⟨size, measured, rfl⟩

theorem step_error {fault : Fault α} (k : Int) (failed : problem.answer base system = .error fault) :
    step e k s = .error fault s := by
  obtain ⟨first, taken, -⟩ := posed.coordinates hw
  refine bind_eq_error.mpr (.inr ⟨s.state.own, s, rfl, ?_⟩)
  rw [current, direct.method, posed.stored]
  refine bind_eq_error.mpr (.inr ⟨first, s, liftM_eq_ok.mpr ⟨taken, rfl⟩, ?_⟩)
  refine bind_eq_error.mpr (.inr ⟨some first, s, rfl, bind_eq_error.mpr ?_⟩)
  cases eliminated : solveDirect system.matrix system.value with
  | error fault' =>
    left
    rw [RootProblem.answer, eliminated] at failed
    cases failed
    exact liftM_eq_error.mpr ⟨eliminated, rfl⟩
  | ok c =>
    right
    rw [RootProblem.answer, eliminated] at failed
    refine ⟨c, s, liftM_eq_ok.mpr ⟨eliminated, rfl⟩, bind_eq_error.mpr (.inl ?_)⟩
    exact liftM_eq_error.mpr ⟨(posed.vector c).trans failed, rfl⟩

theorem iterate_ok {v : Tensor α} (solved : problem.answer base system = .ok v) :
    ∃ t, (solver e).iterate 1 s = .ok () t ∧ t.trail.tally = s.trail.tally ∧ Direct t.state ∧
      t.state.own.vector = some v := by
  obtain ⟨event, stepped⟩ := step_ok posed direct current hw 1 solved
  refine ⟨_, (solver e).iterate_unrecorded stepped direct.unrecorded, rfl, ?_, rfl⟩
  exact ⟨direct.method, direct.budget, direct.unrecorded⟩

theorem solve_agrees {u : Trail α} (tally : s.trail.tally = u.tally) :
    Agree (fun (t : Stage α (Run α (LinearState α))) (u : Trail α) =>
        t.trail.tally = u.tally ∧ Direct t.state) Eq
      ((do
        (solver e).solve Default.solveAllowance none
        match (← Running.getOwn).vector with
        | some v => return v
        | none => throw .missingArray : Running α (LinearState α) (Tensor α)) s)
      ((liftM (problem.answer base system) : Attempt α (Trail α) (Tensor α)) u) := by
  obtain ⟨allowance, enough⟩ : ∃ n, Default.solveAllowance = n + 2 := ⟨10 ^ 12 - 2, rfl⟩
  let begun : Stage α (Run α (LinearState α)) :=
    { s with state := { s.state with iteration := 0 } }
  have prepared : (solver e).prepare none s = .ok () begun := direct.prepare
  have direct₀ : Direct begun.state := ⟨direct.method, direct.budget, direct.unrecorded⟩
  obtain ⟨t, going, tally₁, direct₁, own⟩ := direct₀.asked (e := e) 0
  have current₁ : t.state.own.vector = some w := by
    rw [own]
    exact current
  -- One iteration is made. If it fails, the run ends there with the fault of the system; else the
  -- rule is asked once more and fires.
  cases answer : problem.answer base system with
  | error fault =>
    have failed := step_error posed direct₁ current₁ hw 1 answer
    have ended : (solver e).solve Default.solveAllowance none s = .error fault t := by
      rw [enough]
      refine bind_eq_error.mpr (.inr ⟨(), begun, prepared, ?_⟩)
      refine bind_eq_error.mpr (.inr ⟨false, t, going, ?_⟩)
      exact bind_eq_error.mpr (.inl (bind_eq_error.mpr (.inl failed)))
    rw [bind_eq_error.mpr (.inl ended)]
    exact .error ⟨tally₁.trans tally, direct₁⟩
  | ok v =>
    obtain ⟨t₂, iterated, tally₂, direct₂, found⟩ :=
      iterate_ok posed direct₁ current₁ hw answer
    obtain ⟨t₃, stopping, tally₃, direct₃, own₃⟩ := direct₂.asked (e := e) 1
    have ended : (solver e).solve Default.solveAllowance none s =
        .ok () (Stage.noting (.stopped (solver e).name .debug 1 t₃.state.stop.reason) t₃) := by
      rw [enough]
      refine bind_eq_ok.mpr ⟨(), begun, prepared, ?_⟩
      refine bind_eq_ok.mpr ⟨false, t, going, bind_eq_ok.mpr ⟨(), t₂, iterated, ?_⟩⟩
      exact bind_eq_ok.mpr ⟨true, t₃, stopping, rfl⟩
    have whole : (do
        (solver e).solve Default.solveAllowance none
        match (← Running.getOwn).vector with
        | some v => return v
        | none => throw .missingArray : Running α (LinearState α) (Tensor α)) s =
        .ok v (Stage.noting (.stopped (solver e).name .debug 1 t₃.state.stop.reason) t₃) := by
      refine bind_eq_ok.mpr ⟨(), _, ended, bind_eq_ok.mpr ⟨t₃.state.own, _, rfl, ?_⟩⟩
      rw [own₃, found]
      rfl
    rw [whole]
    exact .ok rfl ⟨tally₃.trans (tally₂.trans (tally₁.trans tally)), direct₃⟩

end LinearState

end ManifoldOpt
