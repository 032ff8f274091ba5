import ManifoldOpt.Proofs.Newton.Modes
import ManifoldOpt.Proofs.Solver.Interruption

/-!
Posing the Newton equation again and again, with and without success. The source is noted before the
system is assembled, and the system is kept before it is checked, so that after a failure the
equation may answer for the source of one request and the system of another.
-/

set_option autoImplicit false

namespace ManifoldOpt

open Attempt

variable {α : Type} [Scalar α]

namespace NewtonEquation

/-- What the equation is asked to be posed for, and the trail that this starts from. -/
structure Request (α : Type) [Scalar α] where
  problem : RootProblem α
  frame : Frame α
  trail : Trail α

namespace Request

def source (q : Request α) : RootProblem α × Tensor α := (q.problem, q.frame.point)

def assembled (q : Request α) : EStateM.Result (Fault α) (Trail α) (NewtonSystem α) :=
  q.problem.newtonSystem q.frame.point q.frame.residualPoint q.frame.transport q.trail

def system? (q : Request α) : Option (NewtonSystem α) := (value? q.assembled).map Prod.fst

def pose (q : Request α) (e : NewtonEquation α) :
    EStateM.Result (Fault α) (Stage α (NewtonEquation α)) Unit :=
  poseAt q.problem q.frame ⟨q.trail, e⟩

end Request

def after (check : ConditionCheck α) : List (Request α) → NewtonEquation α
  | [] => { check }
  | q :: before => (left (q.pose (after check before))).state

variable {e : NewtonEquation α} {q : Request α} {u : Stage α (NewtonEquation α)} {fault : Fault α}

theorem Request.system?_of_ok {system : NewtonSystem α} {t : Trail α}
    (given : q.assembled = .ok system t) : q.system? = some system := by
  rw [system?, given]
  rfl

theorem Request.system?_of_error {t : Trail α} (failed : q.assembled = .error fault t) :
    q.system? = none := by
  rw [system?, failed]
  rfl

theorem Request.pose_left (q : Request α) (e : NewtonEquation α) :
    (left (q.pose e)).state = { e with source := some q.source, system := q.system?.or e.system } := by
  cases given : q.assembled with
  | ok system t =>
    rw [system?_of_ok given, pose, poseAt_of_system given, left_liftM]
    rfl
  | error fault t =>
    rw [system?_of_error given, pose, poseAt_error given]
    rfl

theorem after_eq (check : ConditionCheck α) (requests : List (Request α)) :
    after check requests =
      { check
        source := requests.head?.map Request.source
        system := requests.findSome? Request.system? } := by
  induction requests with
  | nil => rfl
  | cons q before ih =>
    rw [after, Request.pose_left, ih, List.findSome?_cons]
    cases q.system? with
    | none => rfl
    | some system => rfl

theorem Request.pose_eq_error (failed : q.pose e = .error fault u) :
    (q.assembled = .error fault u.trail ∧ q.system? = none) ∨
      ∃ system, q.assembled = .ok system u.trail ∧ q.system? = some system ∧
        e.check.run "NewtonEquationSubproblem" system.matrix = .error fault := by
  cases given : q.assembled with
  | ok system t =>
    rw [pose, poseAt_of_system given] at failed
    obtain ⟨refused, rfl⟩ := liftM_eq_error.mp failed
    exact .inr ⟨system, rfl, system?_of_ok given, refused⟩
  | error fault' t =>
    rw [pose, poseAt_error given] at failed
    cases failed
    exact .inl ⟨rfl, system?_of_error given⟩

theorem Request.pose_eq_ok (posed : q.pose e = .ok () u) :
    ∃ system, q.assembled = .ok system u.trail ∧
      e.check.run "NewtonEquationSubproblem" system.matrix = .ok () ∧
      u.state.posed = .ok (q.problem, q.frame.point, system) := by
  cases given : q.assembled with
  | ok system t =>
    rw [pose, poseAt_of_system given] at posed
    obtain ⟨passed, rfl⟩ := liftM_eq_ok.mp posed
    exact ⟨system, rfl, passed, rfl⟩
  | error fault t =>
    rw [pose, poseAt_error given] at posed
    cases posed

theorem unposed_answers (none : e.system = none) (x : Tensor α) :
    e.coordinates x = .error .notLinearized ∧ e.vector x = .error .notLinearized ∧
      e.residualNorm x = .error .notLinearized := by
  have unposed : e.posed = .error .notLinearized := by
    rw [posed, none]
    cases e.source with
    | none => rfl
    | some source => rfl
  refine ⟨?_, ?_, ?_⟩
  · rw [coordinates, unposed]
    rfl
  · rw [vector, unposed]
    rfl
  · rw [residualNorm, unposed]
    rfl

/-- After a request that fails, the equation has the source of that request and the system that was
last assembled, which is the refused one if it was refused and otherwise one of those before, if there
has been any. So it is as it was before only if it had been posed for the same source, without another
system. The next request that succeeds sets it right. -/
theorem failed_request_leaves (check : ConditionCheck α) (before : List (Request α))
    (failed : q.pose (after check before) = .error fault u) :
    u.state =
        { check
          source := some q.source
          system := (q :: before).findSome? Request.system? } ∧
      ((q.assembled = .error fault u.trail ∧ q.system? = none) ∨
        ∃ system, q.assembled = .ok system u.trail ∧ q.system? = some system ∧
          check.run "NewtonEquationSubproblem" system.matrix = .error fault) ∧
      (u.state = after check before ↔
        before.head?.map Request.source = some q.source ∧
          (q.system? = none ∨ before.findSome? Request.system? = q.system?)) ∧
      (∀ system, (q :: before).findSome? Request.system? = some system →
        u.state.posed = .ok (q.problem, q.frame.point, system)) ∧
      ((q :: before).findSome? Request.system? = none →
        ∀ x, u.state.coordinates x = .error .notLinearized ∧
          u.state.vector x = .error .notLinearized ∧
          u.state.residualNorm x = .error .notLinearized) ∧
      ∀ next v, Request.pose next u.state = .ok () v →
        ∃ system, next.system? = some system ∧
          check.run "NewtonEquationSubproblem" system.matrix = .ok () ∧
          v.state.posed = .ok (next.problem, next.frame.point, system) := by
  have kept : u.state =
      { check
        source := some q.source
        system := (q :: before).findSome? Request.system? } := by
    have reached : (left (q.pose (after check before))).state = u.state := by rw [failed]; rfl
    rw [← reached]
    exact after_eq check (q :: before)
  have run : (after check before).check = check := by rw [after_eq]
  refine ⟨kept, ?_, ?_, ?_, ?_, ?_⟩
  · have fails := Request.pose_eq_error failed
    rwa [run] at fails
  · rw [kept, after_eq, List.findSome?_cons]
    cases q.system? with
    | none => simp [eq_comm]
    | some system => simp [eq_comm]
  · intro system assembled
    rw [kept, assembled]
    rfl
  · intro unassembled
    exact unposed_answers (by rw [kept]; exact unassembled)
  · intro next v posed
    obtain ⟨system, assembled, passed, answers⟩ := Request.pose_eq_ok posed
    rw [kept] at passed
    exact ⟨system, Request.system?_of_ok assembled, passed, answers⟩

def squareOnLine : RootProblem Float where
  manifold := euclidean [1]
  bundle := .tangent (euclidean [1])
  map := .allocating fun p => return some (p.map Scalar.square)
  derivative p := return .action fun v => .ok (v.scale (2 * p.entries.headD 0))

def conditioned : ConditionCheck Float := { wanted := true, limit := .real 1e12 }

def squareAt (x : Float) : Request Float where
  problem := squareOnLine
  frame := ⟨.vector [x], none, true, .none⟩
  trail := {}

theorem squareAt_zero_refused :
    (fault? ((squareAt 0).pose (after conditioned [squareAt 2]))).isSome = true := by
  decide +kernel

theorem failed_request_leaves_square :
    ∃ fault u, (squareAt 0).pose (after conditioned [squareAt 2]) = .error fault u ∧
      u.state =
        { check := conditioned
          source := some (squareAt 0).source
          system := [squareAt 0, squareAt 2].findSome? Request.system? } := by
  obtain ⟨⟨fault, u⟩, given⟩ := Option.isSome_iff_exists.mp squareAt_zero_refused
  have failed := fault?_eq_some.mp given
  exact ⟨fault, u, failed, (failed_request_leaves conditioned [squareAt 2] failed).1⟩

/-- Refused at zero, a new equation answers nevertheless, and one that has been posed at two answers for
zero from then on. -/
theorem refused_request_answers :
    (∃ fault u, (squareAt 0).pose (after conditioned []) = .error fault u ∧
      ((after conditioned []).residualNorm (.vector [1])).toOption = none ∧
      (u.state.residualNorm (.vector [1])).toOption = some 0) ∧
    ∃ fault u, (squareAt 0).pose (after conditioned [squareAt 2]) = .error fault u ∧
      ((after conditioned [squareAt 2]).residualNorm (.vector [1])).toOption = some 8 ∧
      (u.state.residualNorm (.vector [1])).toOption = some 0 := by
  have new : (fault? ((squareAt 0).pose (after conditioned []))).map
      (fun failure => (failure.2.state.residualNorm (.vector [1])).toOption) = some (some 0) := by
    decide +kernel
  have used : (fault? ((squareAt 0).pose (after conditioned [squareAt 2]))).map
      (fun failure => (failure.2.state.residualNorm (.vector [1])).toOption) = some (some 0) := by
    decide +kernel
  obtain ⟨⟨fault, u⟩, given, answer⟩ := Option.map_eq_some_iff.mp new
  obtain ⟨⟨fault', u'⟩, given', answer'⟩ := Option.map_eq_some_iff.mp used
  exact ⟨⟨fault, u, fault?_eq_some.mp given, by decide +kernel, answer⟩,
    fault', u', fault?_eq_some.mp given', by decide +kernel, answer'⟩

end NewtonEquation

end ManifoldOpt
