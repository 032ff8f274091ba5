import ManifoldOpt.Proofs.Solver.Ending
import ManifoldOpt.Proofs.Solver.Guarded
import ManifoldOpt.Proofs.Stopping.Renewal

/-!
Runs that start over. What the set up of a solver leaves of earlier solves is renewed before it is
read: the records when the recorder starts, the memory of the stopping rule when it is asked for
iteration zero, and what the solver keeps for its steps in the first of them.
-/

set_option autoImplicit false

namespace ManifoldOpt

open Attempt

variable {α S : Type}

/-- A new run and one that has been in use, both set up: the rule of one has been asked before, and
the recorders may hold different records of the same fields. -/
structure Run.Restarted (Q : S → S → Prop) (r r' : Run α S) : Prop where
  stop : r.stop.AfterUse r'.stop
  own : Q r.own r'.own
  fields : r.recorder.map Recorder.fields = r'.recorder.map Recorder.fields
  lastStepsize : r.lastStepsize = r'.lastStepsize

variable [Scalar α]

/-- What a recorder needs to start and a stopping rule to be asked for iteration zero. -/
structure View.Shows (view : View α) (M : Manifold α) (p : Tensor α) : Prop where
  manifold : view.manifold = .ok M
  iterate : view.iterate = .ok (some p)

theorem View.Shows.point {view : View α} {M : Manifold α} {p : Tensor α} (shows : view.Shows M p) :
    view.point = .ok p := by
  rw [View.point, shows.iterate]
  rfl

def Recorder.renewed (p : Tensor α) (r : Recorder α) : Recorder α :=
  ⟨r.fields, emptyColumns r.fields, some p⟩

theorem Recorder.start_apply {view : View α} {M : Manifold α} {p : Tensor α}
    (shows : view.Shows M p) (s : Stage α (Recorder α)) :
    start view s = .ok () { s with state := s.state.renewed p } := by
  refine bind_eq_ok.mpr ⟨(), _, rfl, ?_⟩
  refine liftM_bind_eq_ok.mpr ⟨M, shows.manifold, ?_⟩
  exact liftM_bind_eq_ok.mpr ⟨p, shows.point, rfl⟩

omit [Scalar α] in
theorem Recorder.renewed_eq {r r' : Option (Recorder α)}
    (fields : r.map Recorder.fields = r'.map Recorder.fields) (p : Tensor α) :
    r.map (renewed p) = r'.map (renewed p) := by
  -- A renewed recorder depends on the fields alone.
  have renews (r : Option (Recorder α)) : r.map (renewed p) =
      (r.map Recorder.fields).map fun fields => ⟨fields, emptyColumns fields, some p⟩ := by
    rw [Option.map_map]
    rfl
  rw [renews, renews, fields]

namespace Solver

variable {solver : Solver α S} {M : Manifold α} {p : Tensor α} {s t : Stage α (Run α S)}

theorem startRecorder_apply (shows : (solver.view s.state.own).Shows M p) :
    solver.startRecorder s =
      .ok () { s with state :=
        { s.state with recorder := s.state.recorder.map (Recorder.renewed p) } } := by
  rw [startRecorder, Stage.getState_bind]
  cases attached : s.state.recorder with
  | none =>
    rw [withRecorder_none attached, Option.map_none, ← attached]
  | some r =>
    exact (withRecorder_eq_ok attached).mpr ⟨_, Recorder.start_apply shows _, rfl⟩

theorem shouldStop_renews {Q : S → S → Prop} (used : s.state.stop.AfterUse t.state.stop)
    (tally : s.trail.tally = t.trail.tally)
    (runs : Run.Alike Q s.state { t.state with stop := s.state.stop })
    (shows : (solver.view s.state.own).Shows M p) (shows' : (solver.view t.state.own).Shows M p) :
    Agree (Stage.AlikeRuns Q) Eq (solver.shouldStop 0 s) (solver.shouldStop 0 t) := by
  rw [shouldStop, Stage.getState_bind, Stage.getState_bind]
  refine Agree.focus ?_ fun u v (after : Stage.Alike Eq u v) => ⟨after.tally, ?_⟩
  · exact used.ask_zero shows.manifold shows'.manifold shows.iterate shows'.iterate tally
  · refine { runs with stop := ?_ }
    change StoppingRule.mk s.state.stop.root u.state = StoppingRule.mk t.state.stop.root v.state
    rw [used.root, after.state]

/-- From states that are related before their first step a solver steps alike, and from then on
their states are related more closely, unless the step fails on both sides and leaves them as they
are. -/
structure Renewable (Before After : S → S → Prop) (solver : Solver α S) : Prop where
  alike : solver.Alike After solver
  weaken : ∀ x y, After x y → Before x y
  shown : ∀ x y, Before x y → ∃ M p, (solver.view x).Shows M p ∧ (solver.view y).Shows M p
  first : ∀ s t, Stage.AlikeRuns Before s t →
    Agree (Stage.AlikeRuns After) Eq (solver.step 1 s) (solver.step 1 t) ∨
    ∃ e u v, solver.step 1 s = .error e u ∧ solver.step 1 t = .error e v ∧
      Stage.AlikeRuns Before u v

theorem Alike.idle {Q : S → S → Prop} (alike : solver.Alike Q solver) :
    solver.idle.Alike Q solver.idle :=
  { alike with step := fun _ => couples_pure rfl }

theorem finish_couples (solver : Solver α S) (Q : S → S → Prop) (k : Int) :
    Couples (Stage.AlikeRuns Q) Eq (solver.finish k) (solver.finish k) := by
  refine Stage.couples_getState.bind fun r r' runs => Couples.lift_bind fun level _ => ?_
  exact Couples.ite (fun _ => Stage.couples_emit _ _) fun _ => couples_pure rfl

variable {Before After : S → S → Prop} (renewable : Renewable Before After solver)

include renewable

theorem Renewable.rest (allowance : Nat) (before : Stage.AlikeRuns Before s t) :
    Agree (Stage.AlikeRuns Before) Eq
      ((do
        solver.iterate 1
        solver.loop allowance 1 : Running α S Unit) s)
      ((do
        solver.iterate 1
        solver.loop allowance 1 : Running α S Unit) t) := by
  rcases renewable.first s t before with stepped | ⟨e, u, v, failed, failed', after⟩
  · have weaken (s t : Stage α (Run α S)) (after : Stage.AlikeRuns After s t) :
        Stage.AlikeRuns Before s t :=
      ⟨after.tally, { after.state with own := renewable.weaken _ _ after.state.own }⟩
    refine Agree.mono (R := Stage.AlikeRuns After) (V := Eq) ?_ weaken fun _ _ => id
    refine Agree.bind (V := Eq) ?_ fun _ _ s t _ after => renewable.alike.loop allowance 1 s t after
    refine stepped.bind fun _ _ s t _ after => ?_
    exact renewable.alike.idle.iterate 1 s t after
  · rw [bind_of_error (iterate_eq_error.mpr (.inl failed)),
      bind_of_error (iterate_eq_error.mpr (.inl failed'))]
    exact .error after

theorem Renewable.loop (allowance : Nat) (used : s.state.stop.AfterUse t.state.stop)
    (tally : s.trail.tally = t.trail.tally)
    (runs : Run.Alike Before s.state { t.state with stop := s.state.stop }) :
    Agree (Stage.AlikeRuns Before) Eq (solver.loop (allowance + 1) 0 s)
      (solver.loop (allowance + 1) 0 t) := by
  obtain ⟨M, p, shows, shows'⟩ := renewable.shown _ _ runs.own
  rw [Solver.loop]
  refine (shouldStop_renews used tally runs shows shows').bind ?_
  rintro stops _ u v rfl after
  cases stops with
  | true => exact solver.finish_couples Before 0 u v after
  | false => exact renewable.rest allowance after

theorem Renewable.solve {recorder recorder' : Option (Recorder α)} {u v : Stage α (Run α S)}
    (set : solver.setUp ⟨s.trail, s.state.attach recorder⟩ = .ok () u)
    (set' : solver.setUp ⟨t.trail, t.state.attach recorder'⟩ = .ok () v)
    (restarted : Stage.Alike (Run.Restarted Before) u v) (allowance : Nat) :
    Agree (Stage.AlikeRuns Before) Eq (solver.solve (allowance + 1) recorder s)
      (solver.solve (allowance + 1) recorder' t) := by
  obtain ⟨M, p, shows, shows'⟩ := renewable.shown _ _ restarted.state.own
  have prepared : solver.prepare recorder s = .ok () _ :=
    (prepare_of_setUp set).trans (startRecorder_apply (s := u.counted 0) shows)
  have prepared' : solver.prepare recorder' t = .ok () _ :=
    (prepare_of_setUp set').trans (startRecorder_apply (s := v.counted 0) shows')
  rw [Solver.solve, bind_of_ok prepared, Solver.solve, bind_of_ok prepared']
  refine renewable.loop allowance restarted.state.stop restarted.tally ?_
  exact ⟨rfl, restarted.state.own, rfl, Recorder.renewed_eq restarted.state.fields p,
    restarted.state.lastStepsize⟩

end Solver

end ManifoldOpt
