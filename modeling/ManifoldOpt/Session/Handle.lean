import ManifoldOpt.Session.Operand
import ManifoldOpt.Session.Overlay
import ManifoldOpt.Stopping.Plan

/-!
Handles on the states of solvers. A handle says, for one kind of state, how its solver runs under an
overlay of held attributes, how its attributes are read and assigned, and what is shown of it; what a
kind of state lacks fails.
-/

set_option autoImplicit false

namespace ManifoldOpt

inductive Command
  | setUp
  | step (k : Int)
  | solve (record : Option (Literal Float))
  | moveTo (p : Operand)
  | shouldStop (k : Int)
  | replaceStop (rule : StoppingRule Float)
  | assign (values : List (String × Outcome Float (Literal Float)))
  | stepLength (k : Int)
  | direction (k : Int)
  | get (name : String)
  | record (field : Literal Float)
  | recordCount
  | summary

structure Descriptions where
  stepsize : String
  equation : String

structure Handle (S : Type) where
  name : String
  level : Level := .info
  space : Outcome Float Space
  setUp : Handling S Unit := return
  step : Int → Handling S Unit
  view : S → View Float
  moveTo : Operand → Handling S Unit
  stepLength : Int → Handling S StepLength := fun _ => throw .noAttribute
  direction : Int → Handling S MixedArray := fun _ => throw .noAttribute
  result : S → Outcome Float (Option (Tensor Float))
  attributes : S → List (String × Shown)
  answers : Overlaid S → List (String × Outcome Float String)
  callable : List String := []
  readOnly : List String := []
  assign : String → Literal Float → S → S := fun _ _ s => s
  parameters : Overlaid S → Outcome Float (List String) := fun _ => .ok []
  shown : S → List (String × Shown)

/-- The attribute that a method gives, unless the method it relies on is covered. -/
def Overlaid.through {S : Type} (method name : String) (s : Overlaid S) : Outcome Float String :=
  if s.covers method then .error .notNumber else .ok name

namespace Handle

variable {S : Type} (h : Handle S)

def report (r : Run Float S) : Outcome Float (List (String × Shown)) := do
  return r.shown h.shown ++ [("result", .ofOption .array (← h.result r.own)),
    ("repr", .text (r.summary h.name (← h.parameters { own := r.own })))]

/-- The manifold as a point that is a truth value sees it. Two of these have no difference, and a
point without axes is taken for one. -/
def betweenTruths (M : Manifold Float) : Manifold Float :=
  { M with dist := fun x y => if x.rank = 0 then throw .notNumber else M.dist x y }

/-- A part of a view, unless its method is covered or the attribute it gives is not usable. -/
def seen (s : Overlaid S) (method name : String) (own : Outcome Float (Option (Tensor Float))) :
    Outcome Float (Option (Tensor Float)) := do
  if s.covers method then throw .notNumber
  let x ← own
  match (s.held.lookup name).map Held.operand with
  | none => return x
  | some (.array x) => return some x
  | some (.number n) => return some (.scalar n.value)
  | some .missing => return none
  | some _ => throw .notNumber

def seenSubgradient (s : Overlaid S) (own : Outcome Float (Tensor Float × Tensor Float)) :
    Outcome Float (Tensor Float × Tensor Float) := do
  if s.covers "get_subgradient_point" then throw .notNumber
  let (p, v) ← own
  if s.covers "get_subgradient" then throw .notNumber
  let kind := (← h.space).kind
  return (← (s.operand "p_subgradient" fun _ => p).read (kind.reading .inner .point),
    ← (s.operand "X" fun _ => v).read (kind.reading .inner .vector))

def viewUnder (s : Overlaid S) : View Float :=
  let view := h.view s.own
  let isTruth := (s.held.lookup "p").any fun value => value.operand.truth?.isSome
  { view with
    manifold := view.manifold.map fun M => if isTruth then betweenTruths M else M
    iterate := seen s "get_iterate" "p" view.iterate
    direction := seen s "get_direction" "X" view.direction
    subgradient := h.seenSubgradient s view.subgradient }

def nameUnder (held : Attributes) : String := ((held.lookup "name").map Held.display).getD h.name

def levelUnder (held : Attributes) : Outcome Float Level :=
  match held.lookup "termination_log_level" with
  | none => .ok h.level
  | some (.given v) =>
    match v.number?.bind Number.int? with
    | some n => .ok (.ofNumber n)
    | none => .error .notNumber
  | some _ => .error .notNumber

def solver (held : Attributes) : Solver Float (Overlaid S) where
  name := h.nameUnder held
  level := h.levelUnder held
  setUp := do
    Handling.calling "initialize" h.setUp
    Handling.write "iteration" id
  step k := Handling.calling "step" (h.step k)
  view := h.viewUnder

def attributesOf (r : Run Float (Overlaid S)) : List (String × Shown) :=
  [("name", .text h.name), ("iteration", .count r.iteration),
    ("last_stepsize", .ofOption .number r.lastStepsize),
    ("recorder", .ofOption (.text ·.text) r.recorder),
    ("termination_log_level", .count h.level.number)] ++ h.attributes r.own.own

def commonCallable : List String := ["initialize", "step", "set_iterate", "get_record", "stop"]

def parameterLines (s : Overlaid S) : Outcome Float (List String) :=
  if s.covers "parameter_summary" then .error .notNumber else h.parameters s

def summary (r : Run Float (Overlaid S)) : Outcome Float String := do
  let count ← match r.own.held.lookup "iteration" with
    | some count => count.countText
    | none => .ok (countText (.int r.iteration))
  return r.summaryAt (h.nameUnder r.own.held) count (← h.parameterLines r.own)

def value (r : Run Float (Overlaid S)) (name : String) : Outcome Float Shown :=
  match r.own.held.lookup name, (h.attributesOf r).lookup name with
  | some value, _ => .ok value.shown
  | none, some value => .ok value
  | none, none => .error .noAttribute

def answer? (r : Run Float (Overlaid S)) (name : String) : Option (Outcome Float Shown) :=
  match name with
  | "parameter_summary" => some do return .items ((← h.parameters r.own).map .text)
  | "status_summary" => some do return .text (← h.summary r)
  | other => ((h.answers r.own).lookup other).map (· >>= h.value r)

def get (r : Run Float (Overlaid S)) (name : String) : Outcome Float Shown :=
  match r.own.held.lookup name, h.answer? r name, (h.attributesOf r).lookup name with
  | some value, _, _ => .ok value.shown
  | none, some answer, _ => answer
  | none, none, some value => .ok value
  | none, none, none =>
    if (commonCallable ++ h.callable).contains name then .error .notNumber
    else .error .noAttribute

def call (r : Run Float S) (name : String) : Outcome Float Shown :=
  let r := { r with own := { own := r.own } }
  match h.answer? r name with
  | some answer => answer
  | none => do
    let _ ← h.get r name
    throw .notNumber

def record (r : Run Float (Overlaid S)) (field : Literal Float) : Outcome Float Shown := do
  if r.recorder.isSome && !Recorder.isName field then throw .notNumber
  return Recorder.shownColumn (← r.record (h.nameUnder r.own.held) field.display)

def assignTo (name : String) (value : Literal Float) : Handling S Unit := do
  if h.readOnly.contains name then throw .noAttribute
  Handling.hold name (.given value)
  match name, value with
  | "recorder", .none => do
    Stage.modifyState fun r => { r with recorder := none }
    Handling.write "recorder" id
  | "iteration", count => do
    let n := (count.number?.bind Number.int?).getD (-1)
    Stage.modifyState fun r => { r with iteration := n }
  | "last_stepsize", length => Running.setStepsize length.assignedScalar?
  | _, _ => Handling.onOwn (Running.modifyOwn (h.assign name value))

def assignAll : List (String × Outcome Float (Literal Float)) → Handling S Unit
  | [] => return
  | (name, value) :: rest => do
    h.assignTo name (← value)
    assignAll rest

def perform (command : Command) : Handling S Shown := do
  let r ← Stage.getState
  let solver := h.solver r.own.held
  match command with
  | .setUp =>
    Handling.calling "initialize" h.setUp
    return .done
  | .step k =>
    solver.step k
    return .done
  | .solve record =>
    let recorder ← match record with
      | none => pure none
      | some fields => do
        let recorder ← Recorder.ofLiteral fields
        pure (some recorder)
    solver.solve Default.solveAllowance recorder
    return .done
  | .moveTo p =>
    Handling.calling "set_iterate" (h.moveTo p)
    return .done
  | .shouldStop k => return .flag (← solver.shouldStop k)
  | .replaceStop rule =>
    Stage.modifyState fun r => { r with stop := rule }
    return .nothing
  | .assign values =>
    h.assignAll values
    return .nothing
  | .stepLength k => return (← Handling.calling "stepsize" (h.stepLength k)).shown
  | .direction k => return (← Handling.calling "compute_direction" (h.direction k)).shown
  | .get name => return ← h.get r name
  | .record field => Handling.calling "get_record" do return ← h.record r field
  | .recordCount =>
    match r.recorder with
    | some recorder => return .count recorder.size
    | none => throw .notNumber
  | .summary => Handling.calling "status_summary" do return .text (← h.summary r)

end Handle

namespace Handle

variable {S : Type} (h : Handle S)

def shownNames : List String :=
  ["iteration", "last_stepsize", "p", "X", "p_star", "cost_star", "p_subgradient", "p_trial",
    "is_same", "alpha", "theta", "calls"]

def shownRun (r : Run Float (Overlaid S)) : Outcome Float Shown := do
  let held := r.own.held
  if held.has "stop" || held.has "recorder" then throw .noAttribute
  let shownHeld : Attributes := held.filter fun entry => shownNames.contains entry.1
  let isHidden (name : String) : Bool :=
    shownHeld.has name || name = "sub" && held.has "sub_state"
  let own := (r.shown fun s => h.shown s.own).filter fun entry => !isHidden entry.1
  return .fields (own ++ shownHeld.map fun entry => (entry.1, entry.2.shown))

end Handle

def Stage.outcome {T : Type} (m : Attempt Float (Stage Float T) Shown) (s : Stage Float T) :
    Shown × Stage Float T :=
  match m s with
  | .ok value s => (value, s)
  | .error e s => (.fault e, s)

/-- The values of several attempts, each with what is then shown of the state, and the trail. Where
a state cannot be shown, there is no transcript. -/
def Stage.transcript {T : Type} (shown : T → Outcome Float Shown) :
    List (Attempt Float (Stage Float T) Shown) → Stage Float T →
      Outcome Float (List Shown) × Trail Float
  | [], s => (.ok [], s.trail)
  | m :: rest, s =>
    let (value, s) := Stage.outcome m s
    match shown s.state with
    | .error e => (.error e, s.trail)
    | .ok state =>
      let (others, trail) := Stage.transcript shown rest s
      (others.map (.fields [("r", value), ("s", state)] :: ·), trail)

def Handle.transcript {S : Type} (h : Handle S) (commands : List (Outcome Float Command))
    (start : Run Float S) : Shown × Trail Float :=
  let start : Run Float (Overlaid S) := { start with own := { own := start.own } }
  let attempts := commands.map fun (command : Outcome Float Command) =>
    (do h.perform (← command) : Handling S Shown)
  let (values, trail) := Stage.transcript h.shownRun attempts ⟨{}, start⟩
  (.ofOutcome id (do return .items ((← h.shownRun start) :: (← values))), trail)

end ManifoldOpt
