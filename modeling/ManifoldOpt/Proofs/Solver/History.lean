import ManifoldOpt.Proofs.Solver.Recorder
import ManifoldOpt.Proofs.Stopping.Renewal

/-!
What a run may have been through. A run is solved again and again, for any problems, with any
recorders and in whatever way each solve ends, and its point is replaced in between. What every
solve keeps is kept by all of this.
-/

set_option autoImplicit false

namespace ManifoldOpt

open Attempt

variable {α S : Type} [Scalar α]

structure Solver.Preserves (solver : Solver α S) (recorder : Option (Recorder α))
    (I : Run α S → Prop) : Prop where
  attached : recorder.isSome = true → ∀ r, I r → I { r with recorder := recorder }
  setUp : Keeps (fun s => I s.state) solver.setUp
  counted : ∀ k r, I r → I { r with iteration := k }
  started : Keeps (fun s => I s.state) solver.startRecorder
  asked : ∀ k, Keeps (fun s => I s.state) (solver.shouldStop k)
  step : ∀ k, Keeps (fun s => I s.state) (solver.step k)
  recorded : ∀ k, Keeps (fun s => I s.state) (solver.recordIteration k)

namespace Solver

variable {solver : Solver α S} {recorder : Option (Recorder α)} {I J : Run α S → Prop}

theorem Preserves.and (preserves : solver.Preserves recorder I)
    (preserves' : solver.Preserves recorder J) :
    solver.Preserves recorder fun r => I r ∧ J r where
  attached given r before :=
    ⟨preserves.attached given r before.1, preserves'.attached given r before.2⟩
  setUp := preserves.setUp.and preserves'.setUp
  counted k r before := ⟨preserves.counted k r before.1, preserves'.counted k r before.2⟩
  started := preserves.started.and preserves'.started
  asked k := (preserves.asked k).and (preserves'.asked k)
  step k := (preserves.step k).and (preserves'.step k)
  recorded k := (preserves.recorded k).and (preserves'.recorded k)

theorem Preserves.congr (preserves : solver.Preserves recorder I) (same : ∀ r, I r ↔ J r) :
    solver.Preserves recorder J := by
  rwa [funext fun r => propext (same r)] at preserves

theorem Preserves.prepare (preserves : solver.Preserves recorder I) :
    Keeps (fun s => I s.state) (solver.prepare recorder) := by
  have setting : Keeps (fun s => I s.state) (do
      solver.setUp
      Stage.modifyState fun r => { r with iteration := 0 }
      solver.startRecorder : Running α S Unit) := by
    refine preserves.setUp.bind fun _ => Keeps.bind ?_ fun _ => preserves.started
    exact fun s before => preserves.counted 0 s.state before
  refine Keeps.ite (fun given => Keeps.bind ?_ fun _ => setting) fun _ => setting
  exact fun s before => preserves.attached given s.state before

theorem iterate_keeps {k : Int} (stepped : Keeps (fun s => I s.state) (solver.step k))
    (counted : ∀ r, I r → I { r with iteration := k })
    (recorded : Keeps (fun s => I s.state) (solver.recordIteration k)) :
    Keeps (fun s => I s.state) (solver.iterate k) := by
  refine stepped.bind fun _ => Keeps.bind ?_ fun _ => ?_
  · exact fun s before => counted s.state before
  · refine recorded.bind fun _ => Keeps.bind (fun _ before => before) fun r => ?_
    exact Stage.keeps_emit I _

theorem finish_keeps (I : Run α S → Prop) (k : Int) :
    Keeps (fun s => I s.state) (solver.finish k) := by
  refine Keeps.bind (fun _ before => before) fun r => (keeps_liftM _).bind fun level => ?_
  exact Keeps.ite (fun _ => Stage.keeps_emit I _) fun _ => keeps_pure _

theorem loop_keeps (asked : ∀ k, Keeps (fun s => I s.state) (solver.shouldStop k))
    (iterated : ∀ k, Keeps (fun s => I s.state) (solver.iterate k)) (allowance k : Nat) :
    Keeps (fun s => I s.state) (solver.loop allowance k) := by
  induction allowance generalizing k with
  | zero => exact keeps_throw _
  | succ allowance ih =>
    refine (asked k).bind fun stops => Keeps.ite (fun _ => finish_keeps I k) fun _ => ?_
    exact (iterated (k + 1)).bind fun _ => ih (k + 1)

theorem Preserves.solve (preserves : solver.Preserves recorder I) (allowance : Nat) :
    Keeps (fun s => I s.state) (solver.solve allowance recorder) := by
  refine preserves.prepare.bind fun _ => loop_keeps preserves.asked (fun k => ?_) allowance 0
  exact iterate_keeps (preserves.step k) (preserves.counted k) (preserves.recorded k)

omit [Scalar α] in
theorem withRecorder_keeps {m : Attempt α (Stage α (Recorder α)) Unit}
    (replaced : ∀ r kept, I r → I { r with recorder := some kept }) :
    Keeps (fun s => I s.state) (withRecorder m) := by
  refine Keeps.bind (fun _ before => before) fun r => ?_
  cases r.recorder with
  | none => exact keeps_pure _
  | some recorder => exact Stage.keeps_within (fun kept r before => replaced r kept before) m

theorem startRecorder_keeps (solver : Solver α S)
    (replaced : ∀ r kept, I r → I { r with recorder := some kept }) :
    Keeps (fun s => I s.state) solver.startRecorder :=
  Keeps.bind (fun _ before => before) fun _ => withRecorder_keeps replaced

theorem recordIteration_keeps (solver : Solver α S)
    (replaced : ∀ r kept, I r → I { r with recorder := some kept }) (k : Int) :
    Keeps (fun s => I s.state) (solver.recordIteration k) :=
  Keeps.bind (fun _ before => before) fun _ => withRecorder_keeps replaced

theorem shouldStop_keeps (solver : Solver α S)
    (remembered : ∀ r memory, I r → I { r with stop := { r.stop with memory } }) (k : Int) :
    Keeps (fun s => I s.state) (solver.shouldStop k) :=
  Keeps.bind (fun _ before => before) fun _ =>
    Stage.keeps_within (fun memory r before => remembered r memory before) _

theorem preserves_own {P : S → Option α → Prop}
    (setUp : Keeps (fun s => P s.state.own s.state.lastStepsize) solver.setUp)
    (step : ∀ k, Keeps (fun s => P s.state.own s.state.lastStepsize) (solver.step k)) :
    solver.Preserves recorder fun r => P r.own r.lastStepsize where
  attached _ _ before := before
  setUp := setUp
  counted _ _ before := before
  started := solver.startRecorder_keeps (I := fun r => P r.own r.lastStepsize)
    fun _ _ before => before
  asked := solver.shouldStop_keeps (I := fun r => P r.own r.lastStepsize) fun _ _ before => before
  step := step
  recorded := solver.recordIteration_keeps (I := fun r => P r.own r.lastStepsize)
    fun _ _ before => before

theorem solve_keeps_own {P : S → Option α → Prop} {first s : Stage α (Run α S)}
    (set : solver.setUp ⟨first.trail, first.state.attach recorder⟩ = .ok () s)
    (begun : P s.state.own s.state.lastStepsize)
    (step : ∀ k, Keeps (fun s => P s.state.own s.state.lastStepsize) (solver.step k))
    (allowance : Nat) :
    P (left (solver.solve allowance recorder first)).state.own
      (left (solver.solve allowance recorder first)).state.lastStepsize := by
  let I (r : Run α S) : Prop := P r.own r.lastStepsize
  have asked (k : Int) : Keeps (fun s => I s.state) (solver.shouldStop k) :=
    solver.shouldStop_keeps (fun _ _ before => before) k
  have iterated (k : Int) : Keeps (fun s => I s.state) (solver.iterate k) :=
    iterate_keeps (step k) (fun _ before => before)
      (solver.recordIteration_keeps (fun _ _ before => before) k)
  have rest : Keeps (fun s => I s.state) (solver.startRecorder >>= fun _ => solver.loop allowance 0) :=
    (solver.startRecorder_keeps fun _ _ before => before).bind fun _ =>
      loop_keeps asked iterated allowance 0
  have same : solver.solve allowance recorder first =
      (solver.startRecorder >>= fun _ => solver.loop allowance 0) (s.counted 0) := by
    rw [solve]
    cases prepared : solver.startRecorder (s.counted 0) with
    | ok _ t => rw [bind_of_ok ((prepare_of_setUp set).trans prepared), bind_of_ok prepared]
    | error e t => rw [bind_of_error ((prepare_of_setUp set).trans prepared), bind_of_error prepared]
  rw [same]
  exact rest.left begun

theorem shouldStop_ages (solver : Solver α S) (rule : StoppingRule α) (k : Int) :
    Keeps (fun s => rule.AfterUse s.state.stop) (solver.shouldStop k) := by
  intro s before
  rw [shouldStop, Stage.getState_bind]
  refine Stage.keeps_within_of (I := fun t : Stage α (Run α S) => rule.AfterUse t.state.stop) ?_ ?_
    (StoppingRule.AfterUse.ask before _ k) s before
  · exact fun t used => ⟨rfl, used.memory⟩
  · exact fun t u used after => ⟨used.root, after.memory⟩

theorem LeavesDriver.preserves_stop (leaves : solver.LeavesDriver) (rule : StoppingRule α) :
    solver.Preserves recorder fun r => rule.AfterUse r.stop where
  attached _ _ before := before
  setUp := .of_related (fun s => leaves.setUp s.state) (fun s => .refl s.state)
    fun _ _ before same => same.stop ▸ before
  counted _ _ before := before
  started := solver.startRecorder_keeps (I := fun r => rule.AfterUse r.stop) fun _ _ before => before
  asked := solver.shouldStop_ages rule
  step k := .of_related (fun s => leaves.step k s.state) (fun s => .refl s.state)
    fun _ _ before same => same.stop ▸ before
  recorded := solver.recordIteration_keeps (I := fun r => rule.AfterUse r.stop)
    fun _ _ before => before

theorem start_keeps_fields {view : View α} (fields : List Field) :
    Keeps (fun s => s.state.fields = fields) (Recorder.start view) := by
  refine Keeps.bind (fun _ before => before) fun _ => (keeps_liftM _).bind fun _ => ?_
  exact (keeps_liftM _).bind fun p => fun _ before => before

theorem record_keeps_fields {view : View α} {size : Option α} {k : Int} (fields : List Field) :
    Keeps (fun s => s.state.fields = fields) (Recorder.record view size k) := by
  intro s before
  cases given : Recorder.record view size k s with
  | ok _ t =>
    obtain ⟨row, p, -, -, left⟩ := Recorder.record_eq_ok given
    change t.state.fields = fields
    rw [left]
    exact (s.state.fields_grow row).trans before
  | error e t =>
    obtain ⟨done, row, -, -, left⟩ := Recorder.record_eq_error given
    change t.state.fields = fields
    rw [left]
    exact (s.state.fields_grow row).trans before

omit [Scalar α] in
theorem withRecorder_keeps_fields {m : Attempt α (Stage α (Recorder α)) Unit}
    (keeps : ∀ fields, Keeps (fun s => s.state.fields = fields) m) (fields : Option (List Field)) :
    Keeps (fun s : Stage α (Run α S) => s.state.recorder.map Recorder.fields = fields)
      (withRecorder m) := by
  intro s before
  rw [withRecorder, Stage.getState_bind]
  cases attached : s.state.recorder with
  | none => exact before
  | some r =>
    have named : fields = some r.fields := by rw [← before, attached, Option.map_some]
    subst named
    refine Stage.keeps_within_of (J := fun t => t.state.fields = r.fields) (fun t same => ?_)
      (fun t u same after => congrArg some after) (keeps r.fields) s before
    cases recorder : t.state.recorder with
    | none => rfl
    | some kept =>
      rw [recorder] at same
      exact Option.some.inj same

theorem LeavesDriver.preserves_fields (leaves : solver.LeavesDriver) (fields : Option (List Field)) :
    solver.Preserves none fun r => r.recorder.map Recorder.fields = fields where
  attached := nofun
  setUp := .of_related (fun s => leaves.setUp s.state) (fun s => .refl s.state)
    fun _ _ before same => same.recorder ▸ before
  counted _ _ before := before
  started := Keeps.bind (fun _ before => before) fun _ =>
    withRecorder_keeps_fields start_keeps_fields fields
  asked := solver.shouldStop_keeps (I := fun r => r.recorder.map Recorder.fields = fields)
    fun _ _ before => before
  step k := .of_related (fun s => leaves.step k s.state) (fun s => .refl s.state)
    fun _ _ before same => same.recorder ▸ before
  recorded _ := Keeps.bind (fun _ before => before) fun _ =>
    withRecorder_keeps_fields record_keeps_fields fields

end Solver

/-- The run has come from the first one by solves, which may have failed, by replacing its point, and
by asking its stopping rule in the runs of others. -/
inductive Run.History (solves : Solver α S → Prop) (replace : Tensor α → S → Outcome α S)
    (first : Run α S) : Run α S → Prop
  | new : History solves replace first first
  | solved {r : Run α S} {solver : Solver α S} (before : History solves replace first r)
    (given : solves solver) (allowance : Nat) (recorder : Option (Recorder α)) (trail : Trail α) :
    History solves replace first (left (solver.solve allowance recorder ⟨trail, r⟩)).state
  | moved {r : Run α S} {p : Tensor α} {own : S} (before : History solves replace first r)
    (replaced : replace p r.own = .ok own) : History solves replace first { r with own }
  | asked {r : Run α S} (before : History solves replace first r) (view : View α) (k : Int)
    (trail : Trail α) :
    History solves replace first { r with stop := { r.stop with
      memory := (left (r.stop.ask view k ⟨trail, r.stop.memory⟩)).state } }

theorem Run.History.keeps {solves : Solver α S → Prop} {replace : Tensor α → S → Outcome α S}
    {first r : Run α S} (history : History solves replace first r) {I : Run α S → Prop}
    (solved : ∀ solver recorder, solves solver → solver.Preserves recorder I)
    (moved : ∀ r p own, I r → replace p r.own = .ok own → I { r with own })
    (asked : ∀ r view k trail, I r → I { r with stop := { r.stop with
      memory := (left (r.stop.ask view k ⟨trail, r.stop.memory⟩)).state } })
    (new : I first) : I r := by
  induction history with
  | new => exact new
  | solved before given allowance recorder trail ih =>
    exact Keeps.left ((solved _ recorder given).solve allowance) ih
  | moved before replaced ih => exact moved _ _ _ ih replaced
  | asked before view k trail ih => exact asked _ view k trail ih

theorem Run.History.used {solves : Solver α S → Prop} {replace : Tensor α → S → Outcome α S}
    (leaves : ∀ solver, solves solver → solver.LeavesDriver) {first r : Run α S}
    (history : History solves replace first r) : first.stop.AfterUse r.stop := by
  refine history.keeps (I := fun r => first.stop.AfterUse r.stop) ?_ (fun _ _ _ before _ => before) ?_
    (.refl first.stop)
  · exact fun solver recorder given => (leaves solver given).preserves_stop first.stop
  · intro r view k trail before
    exact ⟨before.root, ((before.ask view k).left ⟨rfl, before.memory⟩).memory⟩

end ManifoldOpt
