import ManifoldOpt.Solver.Recorder
import ManifoldOpt.Stopping.Plan

/-!
The driver loop shared by all solvers. A run holds what every solver keeps beside its own state: the
stopping rule, the number of completed iterations, the recorder and the last step length. A solver
says how to set up and to step; the loop asks the stopping rule before every iteration, records
after it, and leaves a run as it was when an iteration fails.
-/

set_option autoImplicit false

namespace ManifoldOpt

variable {α : Type} [Scalar α]

structure Run (α S : Type) where
  stop : StoppingRule α
  own : S
  iteration : Int := 0
  recorder : Option (Recorder α) := none
  lastStepsize : Option α := none

abbrev Running (α S : Type) := Attempt α (Stage α (Run α S))

structure Solver (α : Type) [Scalar α] (S : Type) where
  name : String
  level : Outcome α Level := .ok .info
  setUp : Running α S Unit := pure ()
  step : Int → Running α S Unit
  view : S → View α

variable {S : Type}

namespace Running

def getOwn : Running α S S := do
  return (← Stage.getState).own

def modifyOwn (f : S → S) : Running α S Unit :=
  Stage.modifyState fun r => { r with own := f r.own }

def setStepsize (s : Option α) : Running α S Unit :=
  Stage.modifyState fun r => { r with lastStepsize := s }

end Running

namespace Solver

/-- Asks the stopping rule of a run before iteration `k + 1`. -/
def shouldStop (solver : Solver α S) (k : Int) : Running α S Bool := do
  let r ← Stage.getState
  Stage.within (fun r : Run α S => r.stop.memory)
    (fun memory r => { r with stop := { r.stop with memory } })
    (r.stop.ask (solver.view r.own) k)

def withRecorder (m : Attempt α (Stage α (Recorder α)) Unit) : Running α S Unit := do
  match (← Stage.getState).recorder with
  | none => return
  | some recorder =>
    Stage.within (fun r : Run α S => r.recorder.getD recorder)
      (fun recorder r => { r with recorder := some recorder }) m

def startRecorder (solver : Solver α S) : Running α S Unit := do
  let r ← Stage.getState
  withRecorder (Recorder.start (solver.view r.own))

def recordIteration (solver : Solver α S) (k : Int) : Running α S Unit := do
  let r ← Stage.getState
  withRecorder (Recorder.record (solver.view r.own) r.lastStepsize k)

/-- One iteration, counted and recorded once it is complete. -/
def iterate (solver : Solver α S) (k : Int) : Running α S Unit := do
  solver.step k
  Stage.modifyState fun r => { r with iteration := k }
  solver.recordIteration k
  let r ← Stage.getState
  Stage.emit (.completed solver.name k r.lastStepsize)

def finish (solver : Solver α S) (k : Int) : Running α S Unit := do
  let r ← Stage.getState
  let level ← solver.level
  if Level.debug.number ≤ level.number then
    Stage.emit (.stopped solver.name level k r.stop.reason)

/-- Iterates until the stopping rule fires, from `k` completed iterations on. -/
def loop (solver : Solver α S) : Nat → Nat → Running α S Unit
  | 0, _ => throw .unfinished
  | allowance + 1, k => do
    if ← solver.shouldStop k then solver.finish k
    else
      solver.iterate (k + 1)
      solver.loop allowance (k + 1)

def prepare (solver : Solver α S) (recorder : Option (Recorder α)) : Running α S Unit := do
  if recorder.isSome then Stage.modifyState fun r => { r with recorder := recorder }
  solver.setUp
  Stage.modifyState fun r => { r with iteration := 0 }
  solver.startRecorder

/-- Runs a solver until its stopping rule fires, unless that takes more asking than allowed. -/
def solve (solver : Solver α S) (allowance : Nat) (recorder : Option (Recorder α)) :
    Running α S Unit := do
  solver.prepare recorder
  solver.loop allowance 0

end Solver

def Run.record (name : String) (r : Run α S) (field : String) : Outcome α (List (Entry α)) :=
  match r.recorder with
  | none => .error (.noRecorder name)
  | some recorder => recorder.get field

end ManifoldOpt
