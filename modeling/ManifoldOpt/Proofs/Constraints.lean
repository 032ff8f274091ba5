import ManifoldOpt.Proofs.Scalar.Whole
import ManifoldOpt.Proofs.Stepsize
import ManifoldOpt.Stopping.Plan

set_option autoImplicit false

namespace ManifoldOpt

open Outcome Scalar

namespace Constraint

variable {α : Type} [Scalar α]

def Allows : Constraint α → α → Prop
  | nonNegative, x => 0 ≤ x
  | positive, x => 0 < x
  | atLeastOne, x => 1 ≤ x
  | atLeastDesired desired, x => desired.value ≤ x
  | _, _ => False

def Bounded : Constraint α → Prop
  | atLeastDesired desired => isNaN desired.value = false
  | _ => True

theorem defined_of_allows [Ordered α] {c : Constraint α} {x : α} (allowed : c.Allows x) :
    isNaN x = false ∧ c.Bounded := by
  cases c with
  | nonNegative | atLeastOne =>
    exact ⟨isNaN_eq_false_iff.mpr (Ordered.defined allowed).2, trivial⟩
  | positive => exact ⟨isNaN_right_of_lt allowed, trivial⟩
  | atLeastDesired =>
    obtain ⟨bound, value⟩ := Ordered.defined allowed
    exact ⟨isNaN_eq_false_iff.mpr value, isNaN_eq_false_iff.mpr bound⟩
  | _ => exact allowed.elim

end Constraint

inductive Requirement (α : Type)
  | number (name : String) (value : Number α) (constraint : Constraint α)
  | stepKind (given : Literal α)

namespace Requirement

section Meaning

variable {α : Type} [Scalar α]

def Satisfied : Requirement α → Prop
  | number _ n constraint => constraint.Allows n.value
  | stepKind given => ∃ kind : StepKind, given = .string kind.name

def Defined : Requirement α → Prop
  | number _ n constraint => isNaN n.value = false ∧ constraint.Bounded
  | stepKind _ => True

def Violated (r : Requirement α) : Prop := r.Defined ∧ ¬ r.Satisfied

def fault : Requirement α → Fault α
  | number name n constraint => .configuration name n.literal constraint
  | stepKind given => .configuration "type" given .stepKind

theorem satisfied_iff_defined [Ordered α] {r : Requirement α} (kept : ¬ r.Violated) :
    r.Satisfied ↔ r.Defined := by
  refine ⟨fun satisfied => ?_, fun defined => not_not.mp fun broken => kept ⟨defined, broken⟩⟩
  cases r with
  | number name n constraint => exact constraint.defined_of_allows satisfied
  | stepKind given => trivial

end Meaning

def FirstViolated (requirements : List (Requirement Float)) (r : Requirement Float) : Prop :=
  ∃ before after, requirements = before ++ r :: after ∧ r.Violated ∧ ∀ q ∈ before, ¬ q.Violated

/-- The first requirement that is violated is reported, and without one there is a result. -/
def Settled {β : Type} (requirements : List (Requirement Float)) (made : Outcome Float β)
    (good : β → Prop) : Prop :=
  (∃ r, FirstViolated requirements r ∧ made = .error r.fault) ∨
    ∃ b, made = .ok b ∧ (∀ r ∈ requirements, ¬ r.Violated) ∧ good b

section Checks

variable {β : Type} {r : Requirement Float} {rest : List (Requirement Float)}
  {made next : Outcome Float β} {good : β → Prop}

theorem Settled.nil {b : β} (result : good b) : Settled [] (.ok b) good :=
  .inr ⟨b, rfl, nofun, result⟩

theorem Settled.cons (failed : r.Violated → made = .error r.fault)
    (passed : ¬ r.Violated → made = next) (later : ¬ r.Violated → Settled rest next good) :
    Settled (r :: rest) made good := by
  by_cases violated : r.Violated
  · exact .inl ⟨r, ⟨[], rest, rfl, violated, nofun⟩, failed violated⟩
  -- Only if this one is kept are the others looked at.
  rw [passed violated]
  obtain ⟨q, ⟨before, after, rfl, broken, kept⟩, reported⟩ | ⟨b, result, kept, fine⟩ :=
    later violated
  · exact .inl ⟨q, ⟨r :: before, after, rfl, broken, List.forall_mem_cons.mpr ⟨violated, kept⟩⟩,
      reported⟩
  · exact .inr ⟨b, result, List.forall_mem_cons.mpr ⟨violated, kept⟩, fine⟩

end Checks

end Requirement

namespace Number

inductive Plain : Number Float → Prop
  | real (x : Float) : Plain (.real x)
  | zero : Plain (.int 0)
  | trials : Plain (.int Default.dampingTrials)

variable {n : Number Float}

theorem Plain.lt_zero (plain : n.Plain) : n.lt (.int 0) = true ↔ n.value < 0 := by
  cases plain with
  | real x => exact real_lt_zero
  | zero | trials => decide +kernel

theorem Plain.le_zero (plain : n.Plain) : n.le (.int 0) = true ↔ n.value ≤ 0 := by
  cases plain with
  | real x => exact real_le_zero
  | zero | trials => decide +kernel

theorem Plain.lt_one (plain : n.Plain) : n.lt (.int 1) = true ↔ n.value < 1 := by
  cases plain with
  | real x => exact real_lt_one
  | zero | trials => decide +kernel

end Number

namespace Requirement

variable {name : String} {n : Number Float}

theorem violated_nonNegative (plain : n.Plain) :
    (number name n .nonNegative).Violated ↔ n.lt (.int 0) = true := by
  have zero : isNaN (0 : Float) = false := by decide +kernel
  rw [plain.lt_zero, lt_iff_not_le]
  exact ⟨fun ⟨⟨defined, _⟩, broken⟩ => ⟨defined, zero, broken⟩,
    fun ⟨defined, _, broken⟩ => ⟨⟨defined, trivial⟩, broken⟩⟩

theorem violated_positive (plain : n.Plain) :
    (number name n .positive).Violated ↔ n.le (.int 0) = true := by
  have zero : isNaN (0 : Float) = false := by decide +kernel
  rw [plain.le_zero, le_iff_not_lt]
  exact ⟨fun ⟨⟨defined, _⟩, broken⟩ => ⟨defined, zero, broken⟩,
    fun ⟨defined, _, broken⟩ => ⟨⟨defined, trivial⟩, broken⟩⟩

theorem violated_atLeastOne (plain : n.Plain) :
    (number name n .atLeastOne).Violated ↔ n.lt (.int 1) = true := by
  have one : isNaN (1 : Float) = false := by decide +kernel
  rw [plain.lt_one, lt_iff_not_le]
  exact ⟨fun ⟨⟨defined, _⟩, broken⟩ => ⟨defined, one, broken⟩,
    fun ⟨defined, _, broken⟩ => ⟨⟨defined, trivial⟩, broken⟩⟩

theorem violated_atLeastDesired {x y : Float} :
    (number name (.real x) (.atLeastDesired (.real y))).Violated ↔
      (Number.real x).lt (.real y) = true := by
  change ((isNaN x = false ∧ isNaN y = false) ∧ ¬ y ≤ x) ↔ decide (x < y) = true
  rw [decide_eq_true_eq, lt_iff_not_le, and_assoc]

theorem violated_stepKind {given : Literal Float} :
    (stepKind given).Violated ↔ ∀ kind : StepKind, given ≠ .string kind.name := by
  simp [Violated, Defined, Satisfied]

end Requirement

section Constructors

variable {α : Type}

structure ScalarArguments (α : Type) (names : List String) where
  given : Arguments α
  known : ∀ entry ∈ given, entry.1 ∈ names
  scalar : ∀ entry ∈ given, entry.1 = "type" ∨ ∃ x, entry.2 = .real x

namespace ScalarArguments

variable {names : List String} (a : ScalarArguments α names)

def empty : ScalarArguments α names := ⟨[], nofun, nofun⟩

def real (name : String) (default : α) : α :=
  match a.given.lookup name with
  | some (.real x) => x
  | _ => default

def count (name : String) (default : ℤ) : Number α :=
  match a.given.lookup name with
  | some (.real x) => .real x
  | _ => .int default

def kind : Literal α := a.given.get "type" (.string "relative")

theorem expect_eq : a.given.expect names = .ok () := by
  rw [Arguments.expect, if_pos]
  exact List.all_eq_true.mpr fun entry member => List.contains_iff_mem.mpr (a.known entry member)

theorem lookup_cases {name : String} (other : name ≠ "type") :
    a.given.lookup name = none ∨ ∃ x, a.given.lookup name = some (.real x) := by
  cases found : a.given.lookup name with
  | none => exact .inl rfl
  | some value =>
    obtain ⟨before, after, parts, -⟩ := List.lookup_eq_some_iff.mp found
    have member : (name, value) ∈ a.given := by
      rw [parts]
      simp
    obtain kind | ⟨x, rfl⟩ := a.scalar _ member
    · exact absurd kind other
    · exact .inr ⟨x, rfl⟩

theorem get_real (name : String) (other : name ≠ "type") (default : α) :
    a.given.get name (.real default) = .real (a.real name default) := by
  unfold Arguments.get real
  obtain none | ⟨x, found⟩ := a.lookup_cases other
  · rw [none]
    rfl
  · rw [found]
    rfl

theorem get_none (name : String) (other : name ≠ "type") (default : α) :
    a.given.get name .none = .none ∧ a.real name default = default ∨
      ∃ x, a.given.get name .none = .real x ∧ a.real name default = x := by
  unfold Arguments.get real
  obtain none | ⟨x, found⟩ := a.lookup_cases other
  · rw [none]
    exact .inl ⟨rfl, rfl⟩
  · rw [found]
    exact .inr ⟨x, rfl, rfl⟩

theorem get_count (name : String) (other : name ≠ "type") (default : ℤ) :
    a.given.get name (.int default) = (a.count name default).literal := by
  unfold Arguments.get count
  obtain none | ⟨x, found⟩ := a.lookup_cases other
  · rw [none]
    rfl
  · rw [found]
    rfl

theorem count_plain (a : ScalarArguments Float names) (name : String) {default : ℤ}
    (plain : (Number.int default).Plain) : (a.count name default).Plain := by
  unfold count
  split
  · exact .real _
  · exact plain

end ScalarArguments

variable [Scalar α]

inductive Construction (α : Type)
  | afterIteration (limit : α)
  | changeLess (tolerance : α)
  | subgradientNormLess (tolerance : α)
  | constant (a : ScalarArguments α ["length", "type"])
  | decreasing
      (a : ScalarArguments α ["length", "factor", "subtrahend", "exponent", "shift", "type"])
  | affine (a : ScalarArguments α ["theta_des", "theta_acc", "max_trials", "min_alpha"])

namespace Construction

def requirements : Construction α → List (Requirement α)
  | afterIteration limit => [.number "max_iterations" (.real limit) .nonNegative]
  | changeLess tolerance => [.number "tolerance" (.real tolerance) .positive]
  | subgradientNormLess tolerance => [.number "tolerance" (.real tolerance) .positive]
  | constant a => [.number "length" (.real (a.real "length" 1)) .nonNegative, .stepKind a.kind]
  | decreasing a =>
    [.number "length" (.real (a.real "length" 1)) .nonNegative,
      .number "factor" (.real (a.real "factor" 1)) .positive,
      .number "shift" (a.count "shift" 0) .nonNegative, .stepKind a.kind]
  | affine a =>
    let desired := a.real "theta_des" Default.desiredContraction
    let accepted := a.real "theta_acc" (Default.acceptanceFactor * desired)
    [.number "theta_des" (.real desired) .positive,
      .number "theta_acc" (.real accepted) (.atLeastDesired (.real desired)),
      .number "max_trials" (a.count "max_trials" Default.dampingTrials) .atLeastOne,
      .number "min_alpha" (.real (a.real "min_alpha" Default.leastDamping)) .positive]

theorem defaults_satisfied :
    ∀ c ∈ [constant .empty, decreasing .empty, affine .empty], ∀ r ∈ c.requirements,
      (r : Requirement Float).Satisfied := by
  simp only [List.forall_mem_cons, requirements, Requirement.Satisfied, Constraint.Allows]
  refine ⟨⟨?_, ⟨.relative, rfl⟩, nofun⟩, ⟨?_, ?_, ?_, ⟨.relative, rfl⟩, nofun⟩,
    ⟨?_, ?_, ?_, ?_, nofun⟩, nofun⟩
  all_goals decide +kernel

def criterion (cell : ℕ) (plan : StoppingPlan α) : Outcome α (Criterion α) :=
  Prod.fst <$> plan.build cell

def make (cell : ℕ) : Construction α → Outcome α (Stepsize α ⊕ Criterion α)
  | afterIteration limit => Sum.inr <$> criterion cell (.afterIteration (.real limit))
  | changeLess tolerance => Sum.inr <$> criterion cell (.changeLess (.real tolerance))
  | subgradientNormLess tolerance =>
    Sum.inr <$> criterion cell (.subgradientNormLess (.real tolerance))
  | constant a => Sum.inl <$> Stepsize.constant a.given
  | decreasing a => Sum.inl <$> Stepsize.decreasing a.given
  | affine a => Sum.inl <$> Stepsize.affine a.given

end Construction

def Stepsize.requirements : Stepsize α → List (Requirement α)
  | rule (.constant length kind) =>
    [.number "length" (.real length) .nonNegative, .stepKind (.string kind.name)]
  | rule (.decreasing length factor _ _ shift kind) =>
    [.number "length" (.real length) .nonNegative, .number "factor" (.real factor) .positive,
      .number "shift" shift .nonNegative, .stepKind (.string kind.name)]
  | damped d =>
    [.number "theta_des" (.real d.desired) .positive,
      .number "theta_acc" (.real d.accepted) (.atLeastDesired (.real d.desired)),
      .number "max_trials" d.trials .atLeastOne, .number "min_alpha" (.real d.least) .positive]
  | _ => []

def Criterion.requirements : Criterion α → List (Requirement α)
  | afterIteration _ limit => [.number "max_iterations" limit .nonNegative]
  | changeLess _ tolerance => [.number "tolerance" tolerance .positive]
  | subgradientNormLess _ tolerance => [.number "tolerance" tolerance .positive]
  | _ => []

end Constructors

namespace Requirement

variable {β γ : Type} {rest : List (Requirement Float)} {good : β → Prop} {name : String}
  {n : Number Float}

theorem Settled.map {requirements : List (Requirement Float)} {made : Outcome Float β} {f : β → γ}
    {good : γ → Prop} (settled : Settled requirements made (good ∘ f)) :
    Settled requirements (f <$> made) good := by
  obtain ⟨r, first, rfl⟩ | ⟨b, rfl, kept, fine⟩ := settled
  · exact .inl ⟨r, first, rfl⟩
  · exact .inr ⟨f b, rfl, kept, fine⟩

theorem Settled.check {r : Requirement Float} {refused : Bool} {next : Outcome Float β}
    (violated : r.Violated ↔ refused = true) (later : Settled rest next good) :
    Settled (r :: rest) (if refused then .error r.fault else next) good :=
  .cons (fun broken => if_pos (violated.mp broken)) (fun kept => if_neg (violated.not.mp kept))
    fun _ => later

theorem compared_literal (n : Number Float) : n.literal.compared = .ok n := by cases n <;> rfl

theorem checkNonNegative_literal : checkNonNegative name n.literal =
    if n.lt (.int 0) then .error (.configuration name n.literal .nonNegative) else .ok n := by
  rw [checkNonNegative, compared_literal]
  change (if n.lt (.int 0) then _ else _) = _
  split <;> rfl

theorem checkPositive_literal : checkPositive name n.literal =
    if n.le (.int 0) then .error (.configuration name n.literal .positive) else .ok n := by
  rw [checkPositive, compared_literal]
  change (if n.le (.int 0) then _ else _) = _
  split <;> rfl

theorem checkNonNegative_settled {next : Number Float → Outcome Float β} (plain : n.Plain)
    (later : Settled rest (next n) good) :
    Settled (number name n .nonNegative :: rest) (checkNonNegative name n.literal >>= next) good := by
  have checked : (checkNonNegative name n.literal >>= next) =
      if n.lt (.int 0) then .error (.configuration name n.literal .nonNegative) else next n := by
    rw [checkNonNegative_literal]
    split <;> rfl
  rw [checked]
  exact .check (violated_nonNegative plain) later

theorem checkPositive_settled {next : Number Float → Outcome Float β} (plain : n.Plain)
    (later : Settled rest (next n) good) :
    Settled (number name n .positive :: rest) (checkPositive name n.literal >>= next) good := by
  have checked : (checkPositive name n.literal >>= next) =
      if n.le (.int 0) then .error (.configuration name n.literal .positive) else next n := by
    rw [checkPositive_literal]
    split <;> rfl
  rw [checked]
  exact .check (violated_positive plain) later

theorem stepKind_settled {given : Literal Float} {next : StepKind → Outcome Float β}
    (later : ∀ kind : StepKind, given = .string kind.name → Settled rest (next kind) good) :
    Settled (stepKind given :: rest) (StepKind.ofLiteral given >>= next) good := by
  by_cases named : ∃ kind : StepKind, given = .string kind.name
  · obtain ⟨kind, rfl⟩ := named
    have read : StepKind.ofLiteral (.string kind.name : Literal Float) = .ok kind := by
      cases kind <;> rfl
    refine .cons (fun broken => (violated_stepKind.mp broken kind rfl).elim) (fun _ => ?_)
      fun _ => later kind rfl
    rw [read]
    rfl
  · have broken : (stepKind given).Violated := violated_stepKind.mpr (not_exists.mp named)
    refine .inl ⟨_, ⟨[], rest, rfl, broken, nofun⟩, ?_⟩
    have read : StepKind.ofLiteral given = .error (.configuration "type" given .stepKind) := by
      unfold StepKind.ofLiteral
      split
      · exact absurd ⟨.relative, rfl⟩ named
      · exact absurd ⟨.absolute, rfl⟩ named
      · rfl
    rw [read]
    rfl

end Requirement

open Requirement

namespace Stepsize

theorem constant_settled (a : ScalarArguments Float ["length", "type"]) :
    Settled (Construction.constant a).requirements (constant a.given) fun made =>
      made.requirements = (Construction.constant a).requirements := by
  rw [constant, a.expect_eq, a.get_real "length" (by decide)]
  refine checkNonNegative_settled (.real _) (stepKind_settled fun kind named => .nil ?_)
  simp only [requirements, Construction.requirements, named]

theorem decreasing_settled
    (a : ScalarArguments Float ["length", "factor", "subtrahend", "exponent", "shift", "type"]) :
    Settled (Construction.decreasing a).requirements (decreasing a.given) fun made =>
      made.requirements = (Construction.decreasing a).requirements := by
  rw [decreasing, a.expect_eq, a.get_real "length" (by decide),
    a.get_real "factor" (by decide), a.get_real "subtrahend" (by decide),
    a.get_real "exponent" (by decide), a.get_count "shift" (by decide)]
  refine checkNonNegative_settled (.real _) (checkPositive_settled (.real _) ?_)
  refine checkNonNegative_settled (a.count_plain "shift" .zero) ?_
  refine stepKind_settled fun kind named => .nil ?_
  simp only [requirements, Construction.requirements, named]

theorem affine_settled
    (a : ScalarArguments Float ["theta_des", "theta_acc", "max_trials", "min_alpha"]) :
    Settled (Construction.affine a).requirements (affine a.given) fun made =>
      made.requirements = (Construction.affine a).requirements := by
  rw [affine, a.expect_eq, a.get_real "theta_des" (by decide),
    a.get_real "min_alpha" (by decide), a.get_count "max_trials" (by decide)]
  simp only [Construction.requirements]
  -- The bound is accepted as it is given or by default; the checks that follow are the same.
  obtain ⟨given, accepted⟩ | ⟨x, given, accepted⟩ := a.get_none "theta_acc" (by decide)
    (Default.acceptanceFactor * a.real "theta_des" Default.desiredContraction)
  all_goals
    rw [given, accepted]
    refine checkPositive_settled (.real _) (.check violated_atLeastDesired ?_)
    rw [compared_literal]
    refine .check (violated_atLeastOne (a.count_plain "max_trials" .trials)) ?_
    exact checkPositive_settled (.real _) (.nil rfl)

end Stepsize

namespace Criterion

variable {x : Float}

theorem budget_settled {cell : ℕ} {good : Criterion Float → Prop}
    (result : good (.afterIteration cell (.real x))) :
    Settled [.number "max_iterations" (.real x) .nonNegative] (budget cell (.real x)) good :=
  .check (violated_nonNegative (.real x)) (.nil result)

theorem tolerance_real : tolerance (.real x) =
    if (Number.real x).le (.int 0) then .error (.configuration "tolerance" (.real x) .positive)
    else .ok (.real x) := rfl

theorem tolerance_settled {good : Number Float → Prop} (result : good (.real x)) :
    Settled [.number "tolerance" (.real x) .positive] (tolerance (.real x)) good :=
  .check (violated_positive (.real x)) (.nil result)

end Criterion

namespace Construction

def requirementsOf : Stepsize Float ⊕ Criterion Float → List (Requirement Float) :=
  Sum.elim Stepsize.requirements Criterion.requirements

theorem make_settled (cell : ℕ) (c : Construction Float) :
    Settled c.requirements (c.make cell) fun made => requirementsOf made = c.requirements := by
  cases c with
  | afterIteration limit =>
    have built : criterion cell (.afterIteration (.real limit)) =
        Criterion.budget cell (.real limit) := by
      rw [criterion, StoppingPlan.build]
      cases Criterion.budget cell (.real limit) <;> rfl
    rw [make, built]
    refine .map (Criterion.budget_settled ?_)
    rfl
  | changeLess tolerance =>
    have built : criterion cell (.changeLess (.real tolerance)) =
        Criterion.changeLess cell <$> Criterion.tolerance (.real tolerance) := by
      rw [criterion, StoppingPlan.build]
      cases Criterion.tolerance (.real tolerance) <;> rfl
    rw [make, built]
    refine .map (.map (Criterion.tolerance_settled ?_))
    rfl
  | subgradientNormLess tolerance =>
    have built : criterion cell (.subgradientNormLess (.real tolerance)) =
        Criterion.subgradientNormLess cell <$> Criterion.tolerance (.real tolerance) := by
      rw [criterion, StoppingPlan.build]
      cases Criterion.tolerance (.real tolerance) <;> rfl
    rw [make, built]
    refine .map (.map (Criterion.tolerance_settled ?_))
    rfl
  | constant a => exact (Stepsize.constant_settled a).map
  | decreasing a => exact (Stepsize.decreasing_settled a).map
  | affine a => exact (Stepsize.affine_settled a).map

/-- A constructor called with scalars, undefined and infinite ones included, reports the first
requirement that is violated, or makes an object that stores what it was given; then every parameter
satisfies its constraint unless something undefined was to be compared, and does not if so. -/
theorem made_or_refused (cell : ℕ) (c : Construction Float) :
    (∃ r, FirstViolated c.requirements r ∧ c.make cell = .error r.fault) ∨
      ∃ made, c.make cell = .ok made ∧ requirementsOf made = c.requirements ∧
        ∀ r ∈ requirementsOf made, r.Satisfied ↔ r.Defined := by
  obtain refused | ⟨made, result, kept, stored⟩ := c.make_settled cell
  · exact .inl refused
  · exact .inr ⟨made, result, stored,
      fun r member => satisfied_iff_defined (kept r (stored ▸ member))⟩

end Construction

/-- An undefined tolerance is taken, and is not positive. -/
theorem Criterion.undefined_tolerance_taken :
    (StoppingPlan.changeLess (.real (0 / 0 : Float))).build 0 =
        .ok (.changeLess 0 (.real (0 / 0)), 1) ∧
      ¬ Constraint.positive.Allows (0 / 0 : Float) := by
  have taken : (Number.real (0 / 0 : Float)).le (.int 0) = false := by decide +kernel
  have undefined : ¬ (0 : Float) < 0 / 0 := by decide +kernel
  refine ⟨?_, undefined⟩
  rw [StoppingPlan.build, tolerance_real, taken]
  rfl

end ManifoldOpt
