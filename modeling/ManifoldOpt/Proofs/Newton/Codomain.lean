import ManifoldOpt.Proofs.Manifold.Bundle
import ManifoldOpt.Proofs.Newton.Agreement
import ManifoldOpt.Proofs.Newton.SameEquations
import ManifoldOpt.Proofs.Solver.Interruption

set_option autoImplicit false

namespace ManifoldOpt

variable {α : Type} [Scalar α] {shape : Shape}

open Attempt

namespace RootProblem

def withBundle (problem : RootProblem α) (bundle : Bundle α) : RootProblem α :=
  { problem with bundle }

variable {problem : RootProblem α} {bundle bundle' : Bundle α}
  (agree : bundle.AgreeOn shape bundle')

include agree

theorem rightHandSide_withBundle {base : Tensor α} {residual : Option (Tensor α)}
    {transport : Literal α} (inside : base.shape = shape) (inside' : ∀ q ∈ residual, q.shape = shape)
    (named : transport.NamesTransport) :
    (problem.withBundle bundle').rightHandSide base residual transport =
      (problem.withBundle bundle).rightHandSide base residual transport := by
  have mapped {q : Tensor α} (hq : q.shape = shape) :
      (problem.withBundle bundle').mapAt q = (problem.withBundle bundle).mapAt q := by
    have zero : (problem.withBundle bundle').bundle.zero q =
        (problem.withBundle bundle).bundle.zero q := agree.zero hq
    unfold mapAt
    rw [zero]
    rfl
  unfold rightHandSide
  -- Only a residual from a trial point is carried over.
  cases residual with
  | none =>
    simp only [Option.getD_none, mapped inside]
    rfl
  | some q =>
    have hq : q.shape = shape := inside' q rfl
    have moved (value : Tensor α) :
        (problem.withBundle bundle').bundle.transport q base value transport =
          (problem.withBundle bundle).bundle.transport q base value transport :=
      agree.transport hq inside named value
    simp only [Option.getD_some, mapped hq, moved]
    rfl

theorem newtonSystem_withBundle {frame : Frame α} (inside : frame.Inside shape) :
    (problem.withBundle bundle').newtonSystem frame.point frame.residualPoint frame.transport =
      (problem.withBundle bundle).newtonSystem frame.point frame.residualPoint frame.transport := by
  have residual : ∀ q ∈ frame.residualPoint, q.shape = shape := by
    unfold Frame.residualPoint
    split
    · exact nofun
    · exact inside.trial
  have rhs :
      (problem.withBundle bundle').rightHandSide frame.point frame.residualPoint frame.transport =
        (problem.withBundle bundle).rightHandSide frame.point frame.residualPoint frame.transport :=
    rightHandSide_withBundle agree inside.point residual inside.transport
  have dimensions : (problem.withBundle bundle').checkDimensions =
      (problem.withBundle bundle).checkDimensions := by
    have fiber : (problem.withBundle bundle').bundle.fiberDimension =
        (problem.withBundle bundle).bundle.fiberDimension := agree.dimension
    unfold checkDimensions
    rw [fiber]
    rfl
  have basis : (problem.withBundle bundle').bundle.basis frame.point =
      (problem.withBundle bundle).bundle.basis frame.point := agree.basis inside.point
  have coordinates : (problem.withBundle bundle').bundle.coordinates frame.point =
      (problem.withBundle bundle).bundle.coordinates frame.point := agree.coordinates inside.point
  unfold newtonSystem derivativeMatrix
  rw [rhs, dimensions, basis, coordinates]
  rfl

theorem withBundle_sameEquations (shaped : problem.manifold.Shaped shape) :
    SameEquations shape (problem.withBundle bundle) (problem.withBundle bundle') where
  manifold := rfl
  shaped := shaped
  system _ := newtonSystem_withBundle agree

end RootProblem

section SameFor

variable {problem problem' : RootProblem α}
  (equations : RootProblem.SameEquations shape problem problem')

include equations

theorem RootProblem.SameEquations.newtonVector {frame : Frame α} (inside : frame.Inside shape)
    (check : ConditionCheck α) :
    problem'.newtonVector check frame.point frame.residualPoint frame.transport =
      problem.newtonVector check frame.point frame.residualPoint frame.transport := by
  unfold RootProblem.newtonVector
  rw [equations.system frame inside, equations.manifold]

theorem Subsolver.direct_sameFor : DirectionRule.SameFor shape problem problem' direct where
  same _ inside := by
    unfold direct
    rw [equations.newtonVector inside]
  keepsShape _ _ _ _ inside found := by
    obtain ⟨v, u, solved, rest⟩ := bind_eq_ok.mp found
    cases rest
    exact equations.shaped.keepsShape
      (RootProblem.shape_of_newtonVector equations.shaped inside.point solved)

theorem Subsolver.directInto_sameFor (buffer : Outcome α (Tensor α)) :
    DirectionRule.SameFor shape problem problem' (directInto buffer) where
  same _ inside := by
    unfold directInto
    rw [equations.newtonVector inside]
  keepsShape _ _ _ _ inside found := by
    obtain ⟨v, u, solved, rest⟩ := bind_eq_ok.mp found
    obtain ⟨b, _, _, rest⟩ := bind_eq_ok.mp rest
    obtain ⟨_, _, copied, rest⟩ := bind_eq_ok.mp rest
    cases rest
    rw [copyTo_eq_ok (liftM_eq_ok.mp copied).1]
    exact equations.shaped.keepsShape
      (RootProblem.shape_of_newtonVector equations.shaped inside.point solved)

theorem Subsolver.Direct.sameFor {subsolver : Subsolver α} (direct : subsolver.Direct) :
    subsolver.SameFor shape problem problem' := by
  cases direct with
  | allocating rule =>
    refine .allocating ?_
    rw [rule]
    exact direct_sameFor equations
  | inPlace rule =>
    refine .inPlace fun buffer => ?_
    rw [rule]
    exact directInto_sameFor equations (.ok buffer)
  | nested => exact .nested _ _

end SameFor

namespace RootProblem

variable (problem : RootProblem α)

def overTangents : RootProblem α := problem.withBundle (.tangent problem.manifold)

def overArrays (shape : Shape) : RootProblem α :=
  problem.withBundle (.trivial problem.manifold shape)

end RootProblem

namespace Newton

open NewtonState (UpToSource)

variable {problem : RootProblem α} {options : Options α} {p : Tensor α}

theorem prepare_agrees {M : Manifold α} {bundle bundle' : Bundle α}
    (same : bundle.defaultTransport = bundle'.defaultTransport) :
    prepare M bundle options p = prepare M bundle' options p := by
  have chosen : NewtonState.chosenTransport bundle options.transport =
      NewtonState.chosenTransport bundle' options.transport := by
    unfold NewtonState.chosenTransport
    rw [same]
  unfold prepare NewtonState.start
  rw [chosen]

theorem prepare_sameEquations {problem' : RootProblem α} {M : Manifold α} {bundle : Bundle α}
    {r : Run α (NewtonState α)} (inside : p.shape = shape) (named : options.transport.NamesTransport)
    (sameFor : ∀ subsolver, chooseSubsolver options.subproblem options.substate = .ok subsolver →
      subsolver.SameFor shape problem problem') (made : prepare M bundle options p = .ok r) :
    NewtonState.UpToSourceOn shape problem problem' (fun _ => True) r.own r.own := by
  obtain ⟨subsolver, chosen, rest⟩ := Outcome.bind_eq_ok.mp made
  cases rest
  refine ⟨⟨.refl subsolver, subsolver, rfl⟩, sameFor subsolver chosen, inside, inside, ?_, trivial⟩
  change (NewtonState.chosenTransport bundle options.transport).NamesTransport
  generalize options.transport = given at named ⊢
  cases named with
  | default => exact .method _
  | method m => exact .method m

/-- On flat space it makes no difference whether the values of a map are taken as tangent vectors or
as arrays: the runs go through the same stages, report and record the same, and end or fail in the
same way. A function for the directions has to leave the bundle alone. -/
theorem tangents_or_arrays (axes : shape ≠ []) (entries : 0 ∉ shape)
    (flat : problem.manifold = euclidean shape) (inside : p.shape = shape)
    (named : options.transport.NamesTransport)
    (sameFor : ∀ subsolver, chooseSubsolver options.subproblem options.substate = .ok subsolver →
      subsolver.SameFor shape problem.overTangents (problem.overArrays shape)) :
    prepare problem.manifold (.tangent problem.manifold) options p =
        prepare problem.manifold (.trivial problem.manifold shape) options p ∧
      (∀ r, prepare problem.manifold (.tangent problem.manifold) options p = .ok r →
        (∀ allowance recorder trail,
          Agree (Stage.SameTrailRuns UpToSource) Eq
            ((solver problem.overTangents none).solve allowance recorder ⟨trail, r⟩)
            ((solver (problem.overArrays shape) none).solve allowance recorder ⟨trail, r⟩)) ∧
        ∀ recorder trail n stages,
          Solver.Course (solver problem.overTangents none) recorder ⟨trail, r⟩ n stages →
          ∃ stages',
            Solver.Course (solver (problem.overArrays shape) none) recorder ⟨trail, r⟩ n stages' ∧
              ∀ k ≤ n, Stage.SameTrailRuns UpToSource (stages k) (stages' k)) ∧
      ∀ trail,
        Agree Eq (Run.Alike UpToSource) (findZero problem.overTangents options p trail)
          (findZero (problem.overArrays shape) options p trail) := by
  have agree : Bundle.AgreeOn shape (.tangent problem.manifold)
      (.trivial problem.manifold shape) := by
    rw [flat]
    exact tangent_agrees_trivial shape
  have shaped : problem.manifold.Shaped shape := by
    rw [flat]
    exact euclidean_shaped axes entries
  have joined := solver_sameEquations (RootProblem.withBundle_sameEquations agree shaped) none
  -- Both bundles have the same transport where none is named, so that the runs begin as one.
  have prepared : prepare problem.manifold (.tangent problem.manifold) options p =
      prepare problem.manifold (.trivial problem.manifold shape) options p :=
    prepare_agrees agree.defaultTransport.symm
  have start {r : Run α (NewtonState α)}
      (made : prepare problem.manifold (.tangent problem.manifold) options p = .ok r)
      (trail : Trail α) :
      Stage.SameTrailRuns (NewtonState.UpToSourceOn shape problem.overTangents
        (problem.overArrays shape) fun _ => True) ⟨trail, r⟩ ⟨trail, r⟩ :=
    ⟨rfl, rfl, prepare_sameEquations inside named sameFor made, rfl, rfl, rfl⟩
  have weaken (s t : Stage α (Run α (NewtonState α)))
      (after : Stage.SameTrailRuns (NewtonState.UpToSourceOn shape problem.overTangents
        (problem.overArrays shape) fun _ => True) s t) : Stage.SameTrailRuns UpToSource s t :=
    ⟨after.trail, { after.state with own := after.state.own.alike }⟩
  refine ⟨prepared, fun r made => ⟨?_, ?_⟩, fun trail => ?_⟩
  · intro allowance recorder trail
    exact (joined.solve allowance recorder _ _ (start made trail)).mono weaken fun _ _ => id
  · intro recorder trail n stages course
    obtain ⟨stages', course', after⟩ := joined.course (start made trail) course
    exact ⟨stages', course', fun k before => weaken _ _ (after k before)⟩
  · have begun :
        prepare (problem.overArrays shape).manifold (problem.overArrays shape).bundle options p =
          prepare problem.overTangents.manifold problem.overTangents.bundle options p :=
      prepared.symm
    unfold findZero
    rw [begun]
    refine Couples.lift_bind (fun r made => ?_) trail trail rfl
    refine Couples.lift_bind fun recorder _ => ?_
    refine Couples.bind (V := fun b c => b.1 = c.1 ∧ Run.Alike UpToSource b.2 c.2) ?_ ?_
    · rintro trail _ rfl
      have solved := joined.solve Default.solveAllowance recorder _ _ (start made trail)
      exact Stage.joined_runFrom (solved.mono weaken fun _ _ => id)
    · rintro ⟨_, r⟩ ⟨_, r'⟩ ⟨_, runs⟩
      exact couples_pure runs

-- Twice the difference from a column. The values are added to the buffer, the zero of the fiber.
def twiceFromColumn : RootProblem Float where
  manifold := euclidean [2, 1]
  bundle := .abstract (euclidean [2, 1])
  map := SampleFunction.procedure (euclidean [2, 1])
    (.rule (.scaled (.ok 2) (some ⟨[2, 1], [1, 3], rfl⟩))) .add "twice" .inPlace
  derivative p := liftM ((DerivativeRule.scaled (.ok 2)).operator (euclidean [2, 1]) p)

def columnOptions : Options Float :=
  { dampedOptions (.function directFunction) (.value (.evaluation .inPlace)) with
    stop := some (.after 2), transport := .transport .projection }

theorem tangents_or_arrays_column :
    ∃ r r' t,
      findZero twiceFromColumn.overTangents columnOptions (.zeros [2, 1]) {} = .ok r t ∧
      findZero (twiceFromColumn.overArrays [2, 1]) columnOptions (.zeros [2, 1]) {} = .ok r' t ∧
      Run.Alike UpToSource r r' ∧ r'.own.point.entries = [1, 3] := by
  have found : (value? (findZero twiceFromColumn.overTangents columnOptions (.zeros [2, 1]) {})).map
      (fun r => r.1.own.point.entries) = some [1, 3] := by
    decide +kernel
  obtain ⟨⟨r, t⟩, ended, entries⟩ := Option.map_eq_some_iff.mp found
  have axes : ([2, 1] : Shape) ≠ [] := by decide
  have positive : 0 ∉ ([2, 1] : Shape) := by decide
  have equations : RootProblem.SameEquations [2, 1] twiceFromColumn.overTangents
      (twiceFromColumn.overArrays [2, 1]) :=
    RootProblem.withBundle_sameEquations (tangent_agrees_trivial [2, 1])
      (euclidean_shaped axes positive)
  have sameFor (subsolver : Subsolver Float)
      (chosen : chooseSubsolver columnOptions.subproblem columnOptions.substate = .ok subsolver) :
      subsolver.SameFor [2, 1] twiceFromColumn.overTangents (twiceFromColumn.overArrays [2, 1]) := by
    cases chosen
    exact Subsolver.Direct.sameFor equations (.inPlace rfl)
  have inside : (Tensor.zeros [2, 1] : Tensor Float).shape = [2, 1] := rfl
  have agree := (tangents_or_arrays axes positive rfl inside (.method .projection) sameFor).2.2 {}
  rw [value?_eq_some.mp ended] at agree
  generalize findZero (twiceFromColumn.overArrays [2, 1]) columnOptions (.zeros [2, 1]) {} = result
    at agree
  cases agree with
  | ok runs after =>
    obtain ⟨subsolver, other⟩ := runs.own.other
    subst after
    refine ⟨r, _, _, value?_eq_some.mp ended, rfl, runs, ?_⟩
    rw [other]
    exact entries

end Newton

end ManifoldOpt
