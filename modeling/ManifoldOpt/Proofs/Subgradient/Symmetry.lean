import ManifoldOpt.Proofs.Manifold.Symmetry
import ManifoldOpt.Proofs.Solver.Relation
import ManifoldOpt.Proofs.Subgradient.Sphere

set_option autoImplicit false

namespace ManifoldOpt

open Attempt Matrix
open Tensor (CoordinateImage)

section Problems

variable {m : ℕ} {R : Matrix (Fin m) (Fin m) ℝ}

namespace Procedure

noncomputable def turned (R : Matrix (Fin m) (Fin m) ℝ) : Procedure ℝ → Procedure ℝ
  | allocating f => .allocating fun p => do
    return (← f (p.turn Rᵀ)).map (Tensor.turn R)
  | inPlace name f => .inPlace name fun buffer p => do
    return (← f (buffer.map (Tensor.turn Rᵀ)) (p.turn Rᵀ)).map (Tensor.turn R)

def Within (shape : Shape) (f : Procedure ℝ) : Prop :=
  ∀ {buffer p s v t}, buffer.shape = shape → p.shape = shape → f.evaluate buffer p s = .ok v t →
    v.shape = shape

theorem couples_turned {f : Attempt ℝ (Trail ℝ) (Option (Tensor ℝ))}
    (within : ∀ {s v t}, f s = .ok (some v) t → v.shape = [m]) :
    Couples Eq (Option.Rel (CoordinateImage R)) f (do return (← f).map (Tensor.turn R)) := by
  rintro s _ rfl
  cases given : f s with
  | ok value t =>
    rw [bind_of_ok given]
    cases value with
    | none => exact .ok .none rfl
    | some v => exact .ok (.some (.turn (within given) R)) rfl
  | error e t =>
    rw [bind_of_error given]
    exact .error rfl

theorem evaluate_turned {f : Procedure ℝ} (within : f.Within [m]) (orthogonal : Rᵀ * R = 1)
    {b b' p p' : Tensor ℝ} (buffers : CoordinateImage R b b') (points : CoordinateImage R p p') :
    Couples Eq (CoordinateImage R) (f.evaluate b p) ((f.turned R).evaluate b' p') := by
  have values {s v t} := @within b p s v t buffers.source points.source
  cases f with
  | allocating f =>
    refine Couples.bind (V := Option.Rel (CoordinateImage R)) ?_ ?_
    · change Couples _ _ _ (do return (← f (p'.turn Rᵀ)).map (Tensor.turn R))
      rw [points.turn_back orthogonal]
      exact couples_turned fun given => values (bind_eq_ok.mpr ⟨_, _, given, rfl⟩)
    · rintro _ _ (images | _)
      · exact couples_pure images
      · exact couples_throw _
  | inPlace name f =>
    refine Couples.bind (V := Option.Rel (CoordinateImage R)) ?_ ?_
    · change Couples _ _ _ (do return (← f (.ok (b'.turn Rᵀ)) (p'.turn Rᵀ)).map (Tensor.turn R))
      rw [points.turn_back orthogonal, buffers.turn_back orthogonal]
      exact couples_turned fun given => values (bind_eq_ok.mpr ⟨_, _, given, rfl⟩)
    · rintro _ _ (images | _)
      · exact couples_pure images
      · exact couples_throw _

end Procedure

namespace CostProblem

noncomputable def turned (R : Matrix (Fin m) (Fin m) ℝ) (problem : CostProblem ℝ) :
    CostProblem ℝ where
  manifold := problem.manifold
  cost p := problem.cost (p.turn Rᵀ)
  subgradient := problem.subgradient.turned R

theorem costAt_turned (problem : CostProblem ℝ) (orthogonal : Rᵀ * R = 1) {p p' : Tensor ℝ}
    (points : CoordinateImage R p p') : (problem.turned R).costAt p' = problem.costAt p := by
  have same : (problem.turned R).cost p' = problem.cost p :=
    congrArg problem.cost (points.turn_back orthogonal)
  unfold costAt Callback.number
  rw [same]

end CostProblem

end Problems

variable {n : ℕ} {R : Matrix (Fin (n + 1)) (Fin (n + 1)) ℝ}

structure DampingTraces.Turned (R : Matrix (Fin (n + 1)) (Fin (n + 1)) ℝ)
    (x x' : DampingTraces ℝ) : Prop where
  alpha : x.alpha = x'.alpha
  theta : x.theta = x'.theta
  isSame : x.isSame = x'.isSame
  trial : Option.Rel (CoordinateImage R) x.trial x'.trial

/-- The states of runs in the two coordinate systems: the matrix has been applied to the points and
the subgradients, and everything else is the same. -/
structure SubgradientState.Turned (R : Matrix (Fin (n + 1)) (Fin (n + 1)) ℝ)
    (s s' : SubgradientState ℝ) : Prop where
  point : CoordinateImage R s.point s'.point
  best : CoordinateImage R s.best s'.best
  bestCost : s.bestCost = s'.bestCost
  direction : CoordinateImage R s.direction s'.direction
  directionPoint : CoordinateImage R s.directionPoint s'.directionPoint
  stepsize : s.stepsize = s'.stepsize
  retraction : s.retraction = s'.retraction
  traces : s.traces.Turned R s'.traces

namespace Subgradient

abbrev turnedParts (R : Matrix (Fin (n + 1)) (Fin (n + 1)) ℝ) :
    RunRelations ℝ (SubgradientState ℝ) (SubgradientState ℝ) where
  trail := Eq
  memory := Memory.Related (CoordinateImage R)
  recorder := Recorder.Related (CoordinateImage R)
  own := SubgradientState.Turned R

section Turned

variable (orthogonal : Rᵀ * R = 1)

include orthogonal

theorem searches_paired {s s' : SubgradientState ℝ} (own : s.Turned R s') (k : Int) :
    DampingSearch.Paired (turnedParts R).Stages (CoordinateImage R)
      { notes := SubgradientState.notes, manifold := sphere n, point := s.point
        direction := s.direction, retraction := s.retraction
        simplified := throw .noAttribute, iteration := k }
      { notes := SubgradientState.notes, manifold := sphere n, point := s'.point
        direction := s'.direction, retraction := s'.retraction
        simplified := throw .noAttribute, iteration := k } where
  alpha a := Running.modifyOwn_related fun _ _ own =>
    { own with traces := { own.traces with alpha := rfl } }
  theta t := Running.modifyOwn_related fun _ _ own =>
    { own with traces := { own.traces with theta := rfl } }
  same b := Running.modifyOwn_related fun _ _ own =>
    { own with traces := { own.traces with isSame := rfl } }
  trial p q points := Running.modifyOwn_related fun _ _ own =>
    { own with traces := { own.traces with trial := .some points } }
  emit event := Running.onTrail_related (couples_same _)
  iteration := rfl
  moved factor := by
    rw [← own.retraction]
    exact Sphere.retract_image orthogonal own.point (own.direction.scale factor) _
  norm := (Sphere.isometric orthogonal).norm own.point own.direction
  simplified := couples_throw _

theorem stepLength_turned (k : Int) :
    Couples (turnedParts R).Stages Eq (stepLength (sphere n) k) (stepLength (sphere n) k) := by
  refine Running.getOwn_related.bind fun s s' own => ?_
  rw [← own.stepsize]
  cases s.stepsize with
  | rule r =>
    unfold StepRule.lengthAt
    rw [(Sphere.isometric orthogonal).norm own.point own.direction]
    exact couples_outcome _
  | damped d => exact (searches_paired orthogonal own k).run d
  | inert v => exact couples_throw _

omit orthogonal in
theorem keepBest_turned (cost : ℝ) :
    Couples (turnedParts R).Stages Eq (keepBest cost) (keepBest cost) := by
  refine Running.getOwn_related.bind fun s s' own => ?_
  rw [← own.bestCost]
  cases s.bestCost with
  | none => exact couples_throw _
  | some best =>
    refine Couples.ite (fun _ => Running.modifyOwn_related fun _ _ own => ?_) fun _ =>
      couples_pure rfl
    exact { own with best := own.point, bestCost := rfl }

variable {problem : CostProblem ℝ}

theorem setUp_turned :
    Couples (turnedParts R).Stages Eq (setUp problem) (setUp (problem.turned R)) := by
  refine Couples.bind_eq (Running.modifyOwn_related ?_) fun _ => ?_
  · exact fun _ _ own => { own with best := own.point }
  refine Running.getOwn_related.bind fun s s' own => ?_
  rw [problem.costAt_turned orthogonal own.best]
  refine (Running.onTrail_related (couples_same _)).bind_eq fun cost => ?_
  refine Couples.bind_eq (Running.modifyOwn_related ?_) fun _ => Running.setStepsize_related none
  exact fun _ _ own =>
    { own with bestCost := rfl, directionPoint := own.point, direction := own.point.zerosLike }

variable (space : problem.manifold = sphere n) (within : problem.subgradient.Within [n + 1])

include space within

theorem step_turned (k : Int) :
    Couples (turnedParts R).Stages Eq (step problem k) (step (problem.turned R) k) := by
  have space' : (problem.turned R).manifold = sphere n := space
  unfold step
  rw [space, space']
  refine Couples.bind_eq (Running.modifyOwn_related ?_) fun _ => ?_
  · exact fun _ _ own => { own with directionPoint := own.point }
  refine Running.getOwn_related.bind fun s s' own => ?_
  refine (Running.onTrail_related
    (Procedure.evaluate_turned within orthogonal own.direction own.point)).bind fun v v' image => ?_
  refine Couples.bind_eq (Running.modifyOwn_related ?_) fun _ => ?_
  · exact fun _ _ own => { own with direction := image }
  refine (stepLength_turned orthogonal k).bind_eq fun length => ?_
  refine (Running.setStepsize_related _).bind_eq fun _ => ?_
  refine Running.getOwn_related.bind fun s s' own => ?_
  rw [← own.retraction]
  refine (couples_lift (Sphere.retract_image orthogonal own.point (own.direction.scale (-length))
    s.retraction)).bind fun p p' points => ?_
  refine Couples.bind_eq (Running.modifyOwn_related ?_) fun _ => ?_
  · exact fun _ _ own => { own with point := points }
  rw [problem.costAt_turned orthogonal points]
  exact (Running.onTrail_related (couples_same _)).bind_eq fun cost => keepBest_turned cost

omit within in
theorem view_turned {s s' : SubgradientState ℝ} (own : s.Turned R s') :
    View.Related Eq (CoordinateImage R) ((solver problem).view s)
      ((solver (problem.turned R)).view s') where
  manifold := rfl
  isometric M known := by
    obtain rfl : sphere n = M := space ▸ Except.ok.inj known
    exact Sphere.isometric orthogonal
  iterate := .ok (.some own.point)
  direction := .ok (.some own.direction)
  subgradient := .ok ⟨own.directionPoint, own.direction⟩
  cost := .some fun p q points => by
    rw [problem.costAt_turned orthogonal points]
    exact couples_same _

theorem solver_turned :
    (solver problem).Related (turnedParts R) (solver (problem.turned R)) where
  name := rfl
  level := rfl
  reasons _ _ memories i := (memories.cell i).reason
  emits _ _ _ _ := couples_same _
  checks _ _ own k c :=
    ((Criterion.carries_joined fun _ => couples_same _).check_carried k
      (view_turned orthogonal space own) c fun _ _ => trivial).mono fun _ _ same => same.1
  starts _ _ own := Recorder.start_related (view_turned orthogonal space own)
  records _ _ own := Recorder.record_related (view_turned orthogonal space own)
  setUp := setUp_turned orthogonal
  step := step_turned orthogonal space within

structure Options.Turned (R : Matrix (Fin (n + 1)) (Fin (n + 1)) ℝ)
    (options options' : Options ℝ) : Prop where
  stop : Option.Rel (fun rule rule' => rule.root = rule'.root ∧
    Memory.Related (CoordinateImage R) rule.memory rule'.memory) options.stop options'.stop
  stepsize : options.stepsize = options'.stepsize
  buffer : Option.Rel (CoordinateImage R) options.buffer options'.buffer
  retraction : options.retraction = options'.retraction
  record : options.record = options'.record

omit orthogonal space within in
theorem Options.turned_self {options : Options ℝ}
    (new : ∀ rule ∈ options.stop, ∀ c ∈ rule.memory, c.previous = none)
    (unbuffered : options.buffer = none) : options.Turned R options where
  stop := by
    cases given : options.stop with
    | none => exact .none
    | some rule => exact .some ⟨rfl, Memory.related_fresh (new rule given)⟩
  stepsize := rfl
  buffer := unbuffered ▸ .none
  retraction := rfl
  record := rfl

variable {options options' : Options ℝ} (given : options.Turned R options') {p p' : Tensor ℝ}
  (start : CoordinateImage R p p')

include given start

omit orthogonal space within in
theorem prepare_turned :
    Run.Related (turnedParts R) (prepare (sphere n) options p) (prepare (sphere n) options' p') := by
  have stop := Option.rel_getD given.stop (b := defaultStop) (c := defaultStop)
    ⟨rfl, .cons .blank .nil⟩
  refine ⟨stop.1, stop.2, ?_, rfl, .none, rfl⟩
  have buffer := Option.rel_getD given.buffer start.zerosLike
  refine ⟨start, start, rfl, buffer, start, ?_, ?_, rfl, rfl, rfl, .none⟩
  · exact congrArg (Option.getD · Stepsize.unit) given.stepsize
  · exact congrArg (SubgradientState.chosenRetraction (sphere n)) given.retraction

/-- The subgradient method on the sphere does not depend on the coordinates. If an orthogonal matrix
is applied to the start, and to the points and the subgradients of the problem, then both runs end
after the same iteration, or fail in the same way. On the way, the matrix takes the iterates, the
subgradients and the best points of the one to those of the other, while the costs, the lengths of
the steps, the answers of the stopping rules and what is reported are the same. -/
theorem runs_turn :
    Couples Eq (Run.Related (turnedParts R)) (minimize problem options (.array p))
      (minimize (problem.turned R) options' (.array p')) ∧
    ∀ {recorder recorder' trail N stages},
      Option.Rel (Recorder.Related (CoordinateImage R)) recorder recorder' →
      Solver.Course (solver problem) recorder ⟨trail, prepare (sphere n) options p⟩ N stages →
      ∃ stages', Solver.Course (solver (problem.turned R)) recorder'
          ⟨trail, prepare (sphere n) options' p'⟩ N stages' ∧
        ∀ k ≤ N, (stages k).trail = (stages' k).trail ∧
          Run.Related (turnedParts R) (stages k).state (stages' k).state ∧
          problem.costAt (stages k).state.own.point =
            (problem.turned R).costAt (stages' k).state.own.point ∧
          ∀ {stops t}, (solver problem).shouldStop k (stages k) = .ok stops t →
            ∃ t', (solver (problem.turned R)).shouldStop k (stages' k) = .ok stops t' := by
  have related := solver_turned orthogonal space within
  have prepared := prepare_turned given start
  constructor
  · have space' : (problem.turned R).manifold = sphere n := space
    rw [minimize, minimize, minimizeFrom, minimizeFrom, space, space', ← given.record]
    refine Couples.lift_bind fun recorder made => ?_
    have solved : Couples Eq (fun x y => x.1 = y.1 ∧ Run.Related (turnedParts R) x.2 y.2)
        (Stage.runFrom (prepare (sphere n) options p)
          ((solver problem).solve Default.solveAllowance recorder))
        (Stage.runFrom (prepare (sphere n) options' p')
          ((solver (problem.turned R)).solve Default.solveAllowance recorder)) :=
      fun s t trails => Stage.joined_runFrom
        (related.solve (Recorder.related_ofOption made) _ _ _ ⟨trails, prepared⟩)
    refine solved.bind ?_
    rintro ⟨_, r⟩ ⟨_, r'⟩ ⟨-, runs⟩
    dsimp only
    rw [← runs.own.bestCost]
    exact (couples_same _).bind_eq fun _ => couples_pure runs
  · intro recorder recorder' trail N stages recorders course
    have before : (turnedParts R).Stages ⟨trail, prepare (sphere n) options p⟩
        ⟨trail, prepare (sphere n) options' p'⟩ := ⟨rfl, prepared⟩
    obtain ⟨stages', course', stage⟩ := related.course recorders before course
    refine ⟨stages', course', fun k inside => ?_⟩
    have same := stage k inside
    refine ⟨same.trail, same.state, ?_, fun asked => ?_⟩
    · exact (problem.costAt_turned orthogonal same.state.own.point).symm
    · obtain ⟨t', asked', -⟩ := (related.shouldStop k).ok_left same asked
      exact ⟨t', asked'⟩

end Turned

noncomputable def quarterTurn : Matrix (Fin 2) (Fin 2) ℝ := !![0, -1; 1, 0]

noncomputable def onceOrClose : Options ℝ where
  stop := some ⟨.any 2 [.afterIteration 0 (.int 1), .changeLess 1 (.real 1)], [{}, {}, {}]⟩
  retraction := .retraction .projection

theorem onceOrClose_turned (R : Matrix (Fin (n + 1)) (Fin (n + 1)) ℝ) :
    onceOrClose.Turned R onceOrClose := by
  refine Options.turned_self ?_ rfl
  rintro _ ⟨⟩ c member
  simp only [List.mem_cons, List.not_mem_nil, or_false, or_self] at member
  rw [member]

theorem onceOrClose_course :
    ∃ stages, Solver.Course (solver turning) none
      ⟨{}, prepare (sphere 1) onceOrClose (.vector [1, 0])⟩ 1 stages := by
  let first : Stage ℝ (Run ℝ (SubgradientState ℝ)) :=
    ⟨{}, prepare (sphere 1) onceOrClose (.vector [1, 0])⟩
  obtain ⟨s, prepared⟩ : ∃ s, (solver turning).prepare none first = .ok () s := ⟨_, rfl⟩
  have start : Solver.Course (solver turning) none first 0 fun _ => s :=
    ⟨prepared, fun k inside => absurd inside (Nat.not_lt_zero k)⟩
  obtain ⟨t, u, going, iterated⟩ : ∃ t u,
      (solver turning).shouldStop 0 s = .ok false t ∧ (solver turning).iterate 1 t = .ok () u := by
    cases prepared
    exact ⟨_, _, rfl, bind_eq_ok.mpr ⟨_, _, step_of_calls rfl rfl rfl rfl rfl, rfl⟩⟩
  exact ⟨_, start.extend going iterated⟩

theorem runs_turn_circle :
    ∃ stages stages', Solver.Course (solver turning) none
        ⟨{}, prepare (sphere 1) onceOrClose (.vector [1, 0])⟩ 1 stages ∧
      Solver.Course (solver (turning.turned quarterTurn)) none
        ⟨{}, prepare (sphere 1) onceOrClose (.vector [0, 1])⟩ 1 stages' ∧
      CoordinateImage quarterTurn (stages 1).state.own.point (stages' 1).state.own.point ∧
      (stages 1).state.lastStepsize = (stages' 1).state.lastStepsize := by
  obtain ⟨stages, course⟩ := onceOrClose_course
  have orthogonal : quarterTurnᵀ * quarterTurn = 1 := by
    ext i j
    fin_cases i <;> fin_cases j <;> simp [quarterTurn, Matrix.mul_apply, Fin.sum_univ_two]
  have within : turning.subgradient.Within [1 + 1] := by
    intro buffer p s v t _ _ evaluated
    cases evaluated
    rfl
  have start : CoordinateImage quarterTurn (.vector [1, 0]) (.vector [0, 1]) := by
    refine ⟨rfl, rfl, ?_⟩
    funext i
    fin_cases i <;>
      simp [quarterTurn, Tensor.column, Tensor.vector, mulVec, dotProduct, Fin.sum_univ_two]
  obtain ⟨-, courses⟩ :=
    runs_turn (n := 1) orthogonal rfl within (onceOrClose_turned quarterTurn) start
  obtain ⟨stages', course', same⟩ := courses .none course
  obtain ⟨-, runs, -⟩ := same 1 le_rfl
  exact ⟨stages, stages', course, course', runs.own.point, runs.lastStepsize⟩

end Subgradient

end ManifoldOpt
