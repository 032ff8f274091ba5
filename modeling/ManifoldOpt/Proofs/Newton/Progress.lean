import ManifoldOpt.Proofs.Newton.Correctness
import ManifoldOpt.Proofs.Newton.Evaluation

set_option autoImplicit false

namespace ManifoldOpt

structure NewtonState.Ready {α : Type} [Scalar α] (shape : Shape) (own : NewtonState α) : Prop where
  point : own.point.shape = shape
  direction : own.direction.shape = shape
  direct : own.subsolver.Direct
  retraction : own.retraction.NamesRetraction
  transport : own.transport.NamesTransport

namespace Newton

open Attempt

variable {α : Type} [Scalar α] {problem : RootProblem α} {k : Int}
  {s u w : Stage α (Run α (NewtonState α))}

def stepEnd (k : Int) (length : α) (q : Tensor α) (w : Stage α (Run α (NewtonState α))) :
    Stage α (Run α (NewtonState α)) :=
  Stage.noting (.damped k length w.state.own.theta)
    { w with state := { w.state with
      own := { w.state.own with point := q, trial := q, isSame := true }
      lastStepsize := some length } }

theorem step_of_length {v q : Tensor α} {length : α}
    (solved : computeDirection problem k (beginning s) = .ok v u)
    (measured : stepLength problem k (withDirection v u) = .ok length w)
    (moved : problem.manifold.retract s.state.own.point (v.scale length) s.state.own.retraction =
      .ok q) :
    step problem k s = .ok () (stepEnd k length q w) := by
  obtain ⟨subsolver, left⟩ := computeDirection_state solved
  have same := (stepLength_keeps_move _).of_ok (.refl _) measured
  have point : w.state.own.point = s.state.own.point := by
    rw [same.point, withDirection, left]
    rfl
  have direction : w.state.own.direction = v := same.direction
  have retraction : w.state.own.retraction = s.state.own.retraction := by
    rw [same.retraction, withDirection, left]
    rfl
  rw [← point, ← direction, ← retraction] at moved
  refine bind_eq_ok.mpr ⟨(), beginning s, rfl, bind_eq_ok.mpr ⟨v, u, solved, ?_⟩⟩
  refine bind_eq_ok.mpr ⟨(), withDirection v u, rfl, bind_eq_ok.mpr ⟨length, w, measured, ?_⟩⟩
  refine bind_eq_ok.mpr ⟨(), _, rfl, bind_eq_ok.mpr ⟨w.state.own, _, rfl, ?_⟩⟩
  exact bind_eq_ok.mpr ⟨(), _, rfl, liftM_bind_eq_ok.mpr ⟨q, moved, rfl⟩⟩

theorem computeDirection_of_gives {shape : Shape} (shaped : problem.manifold.Shaped shape)
    (ready : s.state.own.Ready shape) {X : Tensor α}
    (gives : (problem.newtonVector .off s.state.own.point s.state.own.frame.residualPoint
      s.state.own.transport).Gives X) :
    ∃ t subsolver, computeDirection problem k s = .ok X t ∧ Subsolver.Direct subsolver ∧
      t.state = { s.state with own := { s.state.own with subsolver } } := by
  obtain ⟨w, solved⟩ := gives s.trail
  have agree := computeDirection_solves shaped k ready.direct ready.point ready.direction
  rw [solved] at agree
  obtain ⟨t, computed, resolved⟩ := agree.ok_right
  obtain ⟨subsolver, direct, left⟩ := resolved.state
  exact ⟨t, subsolver, computed, direct, left⟩

theorem withDirection_of_gives {shape : Shape} (shaped : problem.manifold.Shaped shape)
    (ready : s.state.own.Ready shape) {X : Tensor α}
    (gives : (problem.newtonVector .off s.state.own.point none s.state.own.transport).Gives X) :
    ∃ u subsolver, computeDirection problem k (beginning s) = .ok X u ∧
      Subsolver.Direct subsolver ∧ X.shape = shape ∧
      (withDirection X u).state.own =
        { s.state.own with direction := X, isSame := true, subsolver } := by
  obtain ⟨u, subsolver, solved, direct, left⟩ :=
    computeDirection_of_gives (s := beginning s) (k := k) shaped { ready with } gives
  obtain ⟨w, found⟩ := gives s.trail
  refine ⟨u, subsolver, solved, direct, RootProblem.shape_of_newtonVector shaped ready.point found, ?_⟩
  rw [withDirection, left]
  rfl

theorem stepLength_of_constant {c : α}
    (constant : s.state.own.stepsize = .rule (.constant c .relative)) :
    stepLength problem k s = .ok c s := by
  rw [stepLength, Running.getOwn_bind, constant]
  rfl

theorem step_of_gives {shape : Shape} (shaped : problem.manifold.Shaped shape)
    (ready : s.state.own.Ready shape) {X q : Tensor α} {c : α}
    (gives : (problem.newtonVector .off s.state.own.point none s.state.own.transport).Gives X)
    (constant : s.state.own.stepsize = .rule (.constant c .relative))
    (moved : problem.manifold.retract s.state.own.point (X.scale c) s.state.own.retraction = .ok q)
    (hq : q.shape = shape) :
    ∃ t, step problem k s = .ok () t ∧ t.state.own.Ready shape ∧
      t.state.own.stepsize = s.state.own.stepsize ∧
      t.state.own.retraction = s.state.own.retraction ∧ t.state.own.point = q := by
  obtain ⟨u, subsolver, solved, direct, hX, own⟩ := withDirection_of_gives (k := k) shaped ready gives
  have measured : stepLength problem k (withDirection X u) = .ok c (withDirection X u) :=
    stepLength_of_constant (by rw [own]; exact constant)
  have reached : (stepEnd k c q (withDirection X u)).state.own = { s.state.own with
      direction := X, point := q, trial := q, isSame := true, subsolver } := by
    rw [stepEnd, own]
    rfl
  refine ⟨_, step_of_length solved measured moved, ?_⟩
  rw [reached]
  exact ⟨⟨hq, hX, direct, ready.retraction, ready.transport⟩, rfl, rfl, rfl⟩

section Damped

variable {d : Damping α} {norm : α} (damped : s.state.own.stepsize = .damped d)
  (measured : problem.manifold.normNumber s.state.own.point s.state.own.direction = .ok norm)

include damped measured

theorem stepLength_of_vanishing (small : norm ≤ Tolerance.epsilon) :
    stepLength problem k s = .ok 1 (Stage.noting (.directionVanishes k)
      { s with state := { s.state with
        own := { s.state.own with alpha := 1, theta := 0, isSame := true } } }) := by
  rw [stepLength_damped damped, DampingSearch.run_of_vanishing measured small]
  rfl

theorem stepLength_of_first {q v : Tensor α} {size : α} (large : ¬ norm ≤ Tolerance.epsilon)
    (wanted : d.accepted < Default.initialContraction)
    (allowed : DampingSearch.isExhausted d 0 1 = false)
    (reached : problem.manifold.retract s.state.own.point (s.state.own.direction.scale 1)
      s.state.own.retraction = .ok q)
    (solved : computeDirection problem k { s with state := { s.state with own := { s.state.own with
      alpha := 1, theta := Default.initialContraction, trial := q, isSame := false } } } = .ok v u)
    (compared : problem.manifold.normNumber s.state.own.point v = .ok size)
    (met : ¬ d.accepted < size / norm) (room : 1 < DampingSearch.allowance d) :
    stepLength problem k s = .ok 1 (Stage.noting (.dampingAccepted k 1 (size / norm) 1)
      { u with state := { u.state with
        own := { u.state.own with theta := size / norm, isSame := true } } }) := by
  let search := dampingSearch problem k s.state.own
  have estimated : search.estimate norm 1 (search.firstRound s).stage =
      .ok (size / norm) { u with state := { u.state with
        own := { u.state.own with theta := size / norm } } } := by
    rw [DampingSearch.estimate_of_reached reached]
    refine bind_eq_ok.mpr ⟨v, u, solved, ?_⟩
    exact liftM_bind_eq_ok.mpr ⟨size, compared, rfl⟩
  have trial : search.Trial d norm (search.firstRound s) _ :=
    ⟨wanted, allowed, size / norm, _, estimated, rfl⟩
  exact stepLength_of_met damped measured large (.single trial) room met

end Damped

def fromPoint (p : Tensor α) (stepsize : Stepsize α) (retraction : Literal α) :
    Stage α (Run α (NewtonState α)) where
  trail := {}
  state := {
    stop := .after 2
    own := {
      point := p, direction := p.zerosLike, trial := p
      subsolver := .allocating {
        name := "direct"
        description := .none
        allocating := Subsolver.direct
        inPlace := Subsolver.directInto }
      stepsize, retraction, transport := .none } }

theorem fromPoint_ready (p : Tensor α) (stepsize : Stepsize α) {retraction : Literal α}
    (named : retraction.NamesRetraction) :
    (fromPoint p stepsize retraction).state.own.Ready p.shape :=
  ⟨rfl, rfl, .allocating rfl, named, .default⟩

section Runs

variable {cost : Option (Tensor α → Attempt α (Trail α) α)} {recorder : Option (Recorder α)}
  {first : Stage α (Run α (NewtonState α))} {n : Nat}
  {stages : Nat → Stage α (Run α (NewtonState α))}

theorem course_start (course : Solver.Course (solver problem cost) recorder first n stages) :
    (stages 0).state.own = { first.state.own with
      trial := first.state.own.point, isSame := true, alpha := 1
      theta := Default.initialContraction } := by
  obtain ⟨r, u, kept, set, reached⟩ := Solver.prepare_state course.prepared
  cases set
  rw [reached]

theorem exists_course {cell most : Nat}
    (budget : first.state.stop.root = .afterIteration cell (.int most))
    (unrecorded : first.state.recorder = none)
    (proceeds : ∀ n stages, Solver.Course (solver problem cost) none first n stages →
      (solver problem cost).Proceeds n stages) :
    ∀ n ≤ most, ∃ stages, Solver.Course (solver problem cost) none first n stages ∧
      (stages n).state.stop.root = .afterIteration cell (.int most) ∧
      (stages n).state.recorder = none := by
  intro n
  induction n with
  | zero =>
    intro _
    let begun : Stage α (Run α (NewtonState α)) := { first with state := { first.state with
      own := { first.state.own with
        trial := first.state.own.point, isSame := true, alpha := 1
        theta := Default.initialContraction }
      iteration := 0, lastStepsize := none } }
    have recorded := Solver.withRecorder_none (s := begun)
      (m := Recorder.start ((solver problem cost).view begun.state.own)) unrecorded
    have prepared : (solver problem cost).prepare none first = .ok () begun :=
      bind_eq_ok.mpr ⟨(), _, rfl, bind_eq_ok.mpr ⟨(), begun, rfl,
        bind_eq_ok.mpr ⟨begun.state, begun, rfl, recorded⟩⟩⟩
    exact ⟨fun _ => begun, ⟨prepared, fun k inside => absurd inside (Nat.not_lt_zero k)⟩, budget,
      unrecorded⟩
  | succ n ih =>
    intro inside
    obtain ⟨stages, course, root, unrecorded'⟩ := ih (by omega)
    obtain ⟨t, asked, -, memory, left⟩ := (solver problem cost).shouldStop_budget n root
    have going : (Number.int most : Number α).le (.int n) = false := by
      change decide ((most : Int) ≤ n) = false
      exact decide_eq_false (by omega)
    rw [going] at asked
    obtain ⟨u, stepped⟩ := proceeds n stages course t asked
    have driver := (solver_leavesDriver problem cost).step (n + 1) |>.of_ok stepped
    have kept : u.state.recorder = none := by
      rw [driver.recorder, left]
      exact unrecorded'
    have root' : u.state.stop.root = .afterIteration cell (.int most) := by
      rw [driver.stop, left]
      exact root
    refine ⟨_, course.extend asked (Solver.iterate_unrecorded _ stepped kept), ?_, ?_⟩
    · rw [Function.update_self]
      exact root'
    · rw [Function.update_self]
      exact kept

end Runs

end Newton

end ManifoldOpt
