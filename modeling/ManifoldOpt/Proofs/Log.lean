import ManifoldOpt.Proofs.Warnings
import ManifoldOpt.Text.Event

/-!
What a run writes into the log. Of the events on a trail a reader picks some, such as those of one
solver or those at one level. A computation is silent for a reader that picks nothing of what it
reports, up to the warning that comes with its failure.
-/

set_option autoImplicit false

namespace ManifoldOpt

variable {α S T β γ : Type}

namespace Event

def solver? : Event α → Option String
  | completed solver _ _ => some solver
  | stopped solver _ _ _ => some solver
  | _ => none

def isDrivenBy (solver : String) (event : Event α) : Bool := decide (event.solver? = some solver)

def isAt (level : Level) (event : Event α) : Bool := decide (event.level = level)

def isEndOf (name : String) : Event α → Bool
  | stopped solver _ _ _ => decide (solver = name)
  | _ => false

/-- Of what is reported at the debug level nothing is picked but what the driver reports. -/
def SkipsDebug (picks : Event α → Bool) : Prop :=
  ∀ event : Event α, event.solver? = none → event.level = .debug → picks event = false

def reports (picks : Event α → Bool) (events : List (Event α)) : List (Level × Event α) :=
  (events.filter picks).map fun event => (event.level, event)

variable {picks : Event α → Bool}

@[simp] theorem reports_nil : reports picks [] = [] := rfl

theorem reports_append (events more : List (Event α)) :
    reports picks (events ++ more) = reports picks events ++ reports picks more := by
  rw [reports, List.filter_append, List.map_append]
  rfl

theorem reports_picked {event : Event α} (picked : picks event = true) :
    reports picks [event] = [(event.level, event)] := by
  simp [reports, picked]

theorem reports_passed {event : Event α} (passed : picks event = false) :
    reports picks [event] = [] := by
  simp [reports, passed]

theorem skipsDebug_isDrivenBy (name : String) : SkipsDebug (α := α) (isDrivenBy name) := by
  intro event unnamed _
  rw [isDrivenBy, unnamed]
  rfl

theorem skipsDebug_isAt {level : Level} (above : level ≠ .debug) :
    SkipsDebug (α := α) (isAt level) := by
  intro event _ low
  rw [isAt, low]
  exact decide_eq_false above.symm

theorem skipsDebug_isEndOf (name : String) : SkipsDebug (α := α) (isEndOf name) := by
  intro event unnamed _
  cases event with
  | stopped solver level k reason => cases unnamed
  | _ => rfl

end Event

open Event (reports reports_append)

def Trail.log (picks : Event α → Bool) (t : Trail α) : List (Level × Event α) :=
  reports picks t.events.reverse

theorem Trail.log_congr {picks : Event α → Bool} {t u : Trail α} (same : t.events = u.events) :
    t.log picks = u.log picks := by
  rw [Trail.log, Trail.log, same]

theorem Trail.log_cons {picks : Event α → Bool} (event : Event α) (t : Trail α) :
    Trail.log picks { t with events := event :: t.events } =
      t.log picks ++ reports picks [event] := by
  rw [Trail.log, List.reverse_cons, reports_append]
  rfl

theorem Stage.log_noting {picks : Event α → Bool} (event : Event α) (s : Stage α S) :
    (Stage.noting event s).trail.log picks = s.trail.log picks ++ reports picks [event] :=
  Trail.log_cons event s.trail

namespace Attempt

/-- A function that reports nothing, and does not fail as a damping search does. -/
structure NoReports (m : Attempt α (Trail α) β) : Prop where
  quiet : ∀ t, (left (m t)).events = t.events
  noWarning : ∀ t e u, m t = .error e u → e.warnings = []

namespace NoReports

variable {m : Attempt α (Trail α) β} {f : β → Attempt α (Trail α) γ}

protected theorem pure (b : β) : NoReports (pure b : Attempt α (Trail α) β) where
  quiet _ := rfl
  noWarning _ _ _ impossible := by cases impossible

theorem throw {e : Fault α} (noWarning : e.warnings = []) :
    NoReports (throw e : Attempt α (Trail α) β) where
  quiet _ := rfl
  noWarning _ _ _ thrown := by
    cases thrown
    exact noWarning

theorem liftM {x : Outcome α β} (noWarning : x.NoWarning) :
    NoReports (liftM x : Attempt α (Trail α) β) where
  quiet t := congrArg Trail.events (left_liftM x t)
  noWarning _ e _ failed := noWarning e (liftM_eq_error.mp failed).1

theorem bind_of_ok (first : NoReports m) (rest : ∀ t b u, m t = .ok b u → NoReports (f b)) :
    NoReports (m >>= f) where
  quiet t := by
    have before := first.quiet t
    cases given : m t with
    | ok b u =>
      rw [given] at before
      rw [Attempt.bind_of_ok given]
      exact ((rest t b u given).quiet u).trans before
    | error e u =>
      rw [given] at before
      rw [bind_of_error given]
      exact before
  noWarning t e u failed := by
    rcases bind_eq_error.mp failed with failed | ⟨b, v, given, failed⟩
    · exact first.noWarning t e u failed
    · exact (rest t b v given).noWarning v e u failed

theorem bind (first : NoReports m) (rest : ∀ b, NoReports (f b)) : NoReports (m >>= f) :=
  first.bind_of_ok fun _ b _ _ => rest b

theorem lift_bind {x : Outcome α β} (noWarning : x.NoWarning)
    (rest : ∀ b, x = .ok b → NoReports (f b)) :
    NoReports (MonadLiftT.monadLift x >>= f : Attempt α (Trail α) γ) := by
  cases x with
  | ok b => exact rest b rfl
  | error e => exact throw (noWarning e rfl)

end NoReports

end Attempt

open Attempt

namespace Stage

variable (picks : Event α → Bool) (I : S → Prop)

/-- The log is as given after a computation that leads to a state with a property; if it has failed,
the warning of its failure has been added. -/
def Logged (log : List (Level × Event α)) : EStateM.Result (Fault α) (Stage α S) β → Prop
  | .ok _ t => I t.state ∧ t.trail.log picks = log
  | .error e t => t.trail.log picks = log ++ reports picks e.warnings

/-- From the states with a property a computation leads to such states, and nothing that it reports
is picked but the warning of its failure. -/
def Silent (m : Attempt α (Stage α S) β) : Prop :=
  ∀ s, I s.state → Logged picks I (s.trail.log picks) (m s)

variable {picks I} {m : Attempt α (Stage α S) β} {f : β → Attempt α (Stage α S) γ}
  {s t : Stage α S} {b : β} {e : Fault α} {log : List (Level × Event α)}

theorem Silent.of_ok (silent : Silent picks I m) (before : I s.state) (done : m s = .ok b t) :
    I t.state ∧ t.trail.log picks = s.trail.log picks := by
  have logged := silent s before
  rw [done] at logged
  exact logged

theorem Silent.of_error (silent : Silent picks I m) (before : I s.state)
    (failed : m s = .error e t) :
    t.trail.log picks = s.trail.log picks ++ reports picks e.warnings := by
  have logged := silent s before
  rw [failed] at logged
  exact logged

theorem Logged.of_noWarning (noWarning : e.warnings = []) (same : t.trail.log picks = log) :
    Logged picks I log (.error e t : EStateM.Result (Fault α) (Stage α S) β) := by
  change t.trail.log picks = log ++ reports picks e.warnings
  rw [noWarning, Event.reports_nil, List.append_nil, same]

theorem Logged.bind (first : Logged picks I log (m s)) (rest : ∀ b, Silent picks I (f b)) :
    Logged picks I log ((m >>= f) s) := by
  cases given : m s with
  | ok b t =>
    rw [given] at first
    obtain ⟨inside, rfl⟩ := first
    rw [bind_of_ok given]
    exact rest b t inside
  | error e t =>
    rw [given] at first
    rw [bind_of_error given]
    exact first

theorem Silent.bind (first : Silent picks I m) (rest : ∀ b, Silent picks I (f b)) :
    Silent picks I (m >>= f) := fun s before => (first s before).bind rest

theorem silent_pure (b : β) : Silent picks I (pure b : Attempt α (Stage α S) β) :=
  fun _ before => ⟨before, rfl⟩

theorem silent_throw (noWarning : e.warnings = []) :
    Silent picks I (throw e : Attempt α (Stage α S) β) := fun _ _ => .of_noWarning noWarning rfl

theorem silent_liftM {x : Outcome α β} (noWarning : x.NoWarning) :
    Silent picks I (liftM x : Attempt α (Stage α S) β) := by
  cases x with
  | ok b => exact silent_pure b
  | error e => exact silent_throw (noWarning e rfl)

theorem Silent.lift_bind {x : Outcome α β} (noWarning : x.NoWarning)
    (rest : ∀ b, x = .ok b → Silent picks I (f b)) : Silent picks I (liftM x >>= f) := by
  cases x with
  | ok b => exact rest b rfl
  | error e => exact silent_throw (noWarning e rfl)

theorem Silent.ite {p : Prop} [Decidable p] {m' : Attempt α (Stage α S) β}
    (yes : Silent picks I m) (no : Silent picks I m') :
    Silent picks I (if p then m else m') := by
  split
  · exact yes
  · exact no

theorem silent_modify {g : S → S} (keeps : ∀ x, I x → I (g x)) :
    Silent picks I (modifyState g : Attempt α (Stage α S) Unit) := fun s before =>
  ⟨keeps s.state before, rfl⟩

theorem silent_emit {event : Event α} (passed : picks event = false) :
    Silent picks I (emit event : Attempt α (Stage α S) Unit) := fun s before => by
  refine ⟨before, (log_noting event s).trans ?_⟩
  rw [Event.reports_passed passed, List.append_nil]

theorem Silent.getState_bind {f : S → Attempt α (Stage α S) β}
    (rest : ∀ x, I x → Silent picks I (f x)) : Silent picks I (getState >>= f) :=
  fun s before => rest s.state before s before

theorem silent_onTrail {m : Attempt α (Trail α) β} (noReports : m.NoReports) :
    Silent picks I (onTrail m : Attempt α (Stage α S) β) := by
  intro s before
  have quiet := noReports.quiet s.trail
  unfold onTrail focus
  cases given : m s.trail with
  | ok b t =>
    rw [given] at quiet
    exact ⟨before, Trail.log_congr quiet⟩
  | error e t =>
    rw [given] at quiet
    exact .of_noWarning (noReports.noWarning _ _ _ given) (Trail.log_congr quiet)

variable {J : T → Prop} {part : S → T} {put : T → S → S} {n : Attempt α (Stage α T) β}

theorem Logged.within (logged : Logged picks J log (n ⟨s.trail, part s.state⟩))
    (puts : ∀ t, J t → I (put t s.state)) : Logged picks I log (within part put n s) := by
  unfold Stage.within focus
  cases given : n ⟨s.trail, part s.state⟩ with
  | ok b t =>
    rw [given] at logged
    exact ⟨puts t.state logged.1, logged.2⟩
  | error e t =>
    rw [given] at logged
    exact logged

theorem Silent.within (silent : Silent picks J n) (parts : ∀ x, I x → J (part x))
    (puts : ∀ x t, I x → J t → I (put t x)) : Silent picks I (within part put n) :=
  fun s before => (silent ⟨s.trail, part s.state⟩ (parts s.state before)).within fun t =>
    puts s.state t before

end Stage

namespace Running

open Stage (Silent)

variable {picks : Event α → Bool} {I : Run α S → Prop}

theorem getOwn_silent {f : S → Running α S β} (rest : ∀ r, I r → Silent picks I (f r.own)) :
    Silent picks I (getOwn >>= f) := fun s before => rest s.state before s before

theorem modifyOwn_silent {f : S → S} (keeps : ∀ r, I r → I { r with own := f r.own }) :
    Silent picks I (modifyOwn f : Running α S Unit) := fun s before => ⟨keeps s.state before, rfl⟩

theorem setStepsize_silent {size : Option α}
    (keeps : ∀ r, I r → I { r with lastStepsize := size }) :
    Silent picks I (setStepsize size : Running α S Unit) := fun s before =>
  ⟨keeps s.state before, rfl⟩

end Running

end ManifoldOpt
