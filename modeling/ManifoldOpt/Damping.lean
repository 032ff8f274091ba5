import ManifoldOpt.Solver.Run
import ManifoldOpt.Stepsize

/-!
The affine covariant search for a damping factor. A trial point is reached along the direction with
the current factor; the direction computed there with the derivative left as it is, compared with
the direction itself, estimates the contraction. Factors shrink in proportion until the contraction
is accepted. A search that runs out of trials, or of factors worth trying, fails.
-/

set_option autoImplicit false

namespace ManifoldOpt

variable {α : Type} [Scalar α] {S : Type}

/-- How a search notes its progress in the state of a solver. -/
structure DampingNotes (α S : Type) where
  setAlpha : α → S → S
  setTheta : α → S → S
  setSame : Bool → S → S
  setTrial : Tensor α → S → S

/-- What a search works on: the point and direction, the way to trial points, and the direction
computed at a trial point. -/
structure DampingSearch (α : Type) [Scalar α] (S : Type) where
  notes : DampingNotes α S
  manifold : Manifold α
  point : Tensor α
  direction : Tensor α
  retraction : Literal α
  simplified : Running α S (Tensor α)
  iteration : Int

namespace DampingSearch

def note (f : S → S) : Running α S Unit := Running.modifyOwn f

def nextFactor (d : Damping α) (alpha theta : α) : α :=
  let proposed := alpha * d.desired / theta
  if proposed < 1 then proposed else 1

def estimate (search : DampingSearch α S) (norm factor : α) : Running α S α := do
  note (search.notes.setAlpha factor)
  let trial ← search.manifold.retract search.point (search.direction.scale factor)
    search.retraction
  note (search.notes.setTrial trial)
  note (search.notes.setSame false)
  let v ← search.simplified
  let size ← search.manifold.normNumber search.point v
  let theta := size / norm
  note (search.notes.setTheta theta)
  return theta

def accept (search : DampingSearch α S) (alpha theta : α) (trials : Nat) : Running α S α := do
  note (search.notes.setSame true)
  Stage.emit (.dampingAccepted search.iteration alpha theta trials)
  return alpha

def giveUp (search : DampingSearch α S) (factor theta : α) (trials : Nat) : Running α S α := do
  note (search.notes.setSame true)
  Stage.emit (.dampingGivenUp search.iteration trials theta)
  throw (.dampingFailed search.iteration factor theta trials)

def isExhausted (d : Damping α) (trials : Nat) (factor : α) : Bool :=
  d.trials.le (.int trials) || decide (factor < d.least)

/-- Goes on after some trials, the last of them with factor `alpha` and contraction `theta`, with
`factor` proposed for the next one. -/
def loop (search : DampingSearch α S) (d : Damping α) (norm : α) :
    Nat → Nat → α → α → α → Running α S α
  | 0, _, _, _, _ => throw .unfinished
  | allowance + 1, trials, alpha, theta, factor => do
    if d.accepted < theta then
      if isExhausted d trials factor then search.giveUp factor theta trials
      else
        let theta' ← search.estimate norm factor
        let proposed := if 0 < theta' then nextFactor d factor theta' else factor
        search.loop d norm allowance (trials + 1) factor theta' proposed
    else search.accept alpha theta trials

/-- The trials a search can make, and one more round to give up. -/
def allowance (d : Damping α) : Nat :=
  match d.trials.int? with
  | some count => count.toNat + 1
  | none => Default.solveAllowance

def run (search : DampingSearch α S) (d : Damping α) : Running α S α := do
  note (search.notes.setAlpha 1)
  note (search.notes.setTheta Default.initialContraction)
  let norm ← search.manifold.normNumber search.point search.direction
  if norm ≤ Tolerance.epsilon then
    note (search.notes.setTheta 0)
    note (search.notes.setSame true)
    Stage.emit (.directionVanishes search.iteration)
    return 1
  else search.loop d norm (allowance d) 0 1 Default.initialContraction 1

end DampingSearch

end ManifoldOpt
