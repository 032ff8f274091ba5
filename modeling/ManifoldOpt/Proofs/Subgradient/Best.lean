import ManifoldOpt.Proofs.Scalar.Order
import ManifoldOpt.Proofs.Subgradient.Step

set_option autoImplicit false

namespace ManifoldOpt

variable {α : Type} [Scalar α]

/-- The cost callback computes the function `f`, though it may also fail or report events. -/
def CostProblem.HasCost (problem : CostProblem α) (f : Tensor α → α) : Prop :=
  ∀ {p s c t}, problem.costAt p s = .ok c t → c = f p

namespace Subgradient

open Scalar

/-- The cost `i` is the earliest that is least among those up to `n`. Undefined costs do not count,
unless the first one is undefined: then nothing is below. -/
structure EarliestMinimum (costs : Nat → α) (n i : Nat) : Prop where
  inside : i ≤ n
  unbeaten : ∀ j ≤ n, ¬ costs j < costs i
  minimum : isNaN (costs 0) = false →
    isNaN (costs i) = false ∧ ∀ j ≤ n, isNaN (costs j) = false → costs i ≤ costs j
  earliest : ∀ j < i, isNaN (costs j) = false → costs i < costs j
  undefined : isNaN (costs 0) = true → i = 0

namespace EarliestMinimum

variable {costs : Nat → α} {n i : Nat}

theorem congr {costs' : Nat → α} (least : EarliestMinimum costs n i)
    (same : ∀ j ≤ n, costs' j = costs j) : EarliestMinimum costs' n i := by
  obtain ⟨inside, unbeaten, minimum, earliest, undefined⟩ := least
  constructor
  case inside => exact inside
  case unbeaten =>
    intro j within
    rw [same j within, same i inside]
    exact unbeaten j within
  case minimum =>
    rw [same 0 (Nat.zero_le n), same i inside]
    intro start
    obtain ⟨defined, below⟩ := minimum start
    refine ⟨defined, fun j within => ?_⟩
    rw [same j within]
    exact below j within
  case earliest =>
    intro j before
    rw [same j (by omega), same i inside]
    exact earliest j before
  case undefined =>
    rw [same 0 (Nat.zero_le n)]
    exact undefined

variable [Ordered α]

theorem start (costs : Nat → α) : EarliestMinimum costs 0 0 where
  inside := Nat.le_refl 0
  unbeaten j inside := by
    obtain rfl := Nat.le_zero.mp inside
    exact lt_irrefl _
  minimum defined := by
    refine ⟨defined, fun j inside _ => ?_⟩
    obtain rfl := Nat.le_zero.mp inside
    exact isNaN_eq_false_iff.mp defined
  earliest j before := absurd before (Nat.not_lt_zero j)
  undefined _ := rfl

theorem defined_of_beaten (least : EarliestMinimum costs n i) {c : α} (beaten : c < costs i) :
    isNaN (costs 0) = false := by
  cases undefined : isNaN (costs 0) with
  | false => rfl
  | true =>
    -- The best point is still the first one, and nothing is below its cost.
    have defined := isNaN_right_of_lt beaten
    rw [least.undefined undefined, undefined] at defined
    cases defined

theorem improve (least : EarliestMinimum costs n i) (lower : costs (n + 1) < costs i) :
    EarliestMinimum costs (n + 1) (n + 1) := by
  have start := least.defined_of_beaten lower
  obtain ⟨-, minimum⟩ := least.minimum start
  -- Being strictly below the least cost makes the new one the earliest with its value.
  have below : ∀ j ≤ n, isNaN (costs j) = false → costs (n + 1) < costs j :=
    fun j inside defined => lt_of_lt_of_le lower (minimum j inside defined)
  constructor
  case inside => exact Nat.le_refl _
  case unbeaten =>
    intro j inside beaten
    by_cases last : j = n + 1
    · subst last
      exact lt_irrefl _ beaten
    · exact least.unbeaten j (by omega) (lt_trans beaten lower)
  case minimum =>
    refine fun _ => ⟨isNaN_left_of_lt lower, fun j inside defined => ?_⟩
    by_cases last : j = n + 1
    · subst last
      exact isNaN_eq_false_iff.mp defined
    · exact le_of_lt (below j (by omega) defined)
  case earliest => exact fun j before defined => below j (by omega) defined
  case undefined =>
    intro undefined
    rw [start] at undefined
    cases undefined

theorem keep (least : EarliestMinimum costs n i) (lower : ¬ costs (n + 1) < costs i) :
    EarliestMinimum costs (n + 1) i := by
  constructor
  case inside => exact Nat.le_succ_of_le least.inside
  case unbeaten =>
    intro j inside
    by_cases last : j = n + 1
    · subst last
      exact lower
    · exact least.unbeaten j (by omega)
  case minimum =>
    intro start
    obtain ⟨defined, minimum⟩ := least.minimum start
    refine ⟨defined, fun j inside other => ?_⟩
    -- Two defined costs compare, so that one that is not lower is at least as high.
    by_cases last : j = n + 1
    · subst last
      exact le_of_not_lt other defined lower
    · exact minimum j (by omega) other
  case earliest => exact least.earliest
  case undefined => exact least.undefined

end EarliestMinimum

structure BestAmong (f : Tensor α → α) (points : Nat → Tensor α) (n : Nat) (best : Tensor α)
    (cost : α) : Prop where
  is_cost : cost = f best
  unbeaten : ∀ i ≤ n, ¬ f (points i) < cost
  minimum : isNaN (f (points 0)) = false →
    isNaN cost = false ∧ ∀ i ≤ n, isNaN (f (points i)) = false → cost ≤ f (points i)
  earliest : ∃ i ≤ n, best = points i ∧ ∀ j < i, isNaN (f (points j)) = false → cost < f (points j)
  undefined : isNaN (f (points 0)) = true → best = points 0

theorem EarliestMinimum.bestAmong {f : Tensor α → α} {points : Nat → Tensor α} {n i : Nat}
    (least : EarliestMinimum (fun j => f (points j)) n i) :
    BestAmong f points n (points i) (f (points i)) where
  is_cost := rfl
  unbeaten := least.unbeaten
  minimum := least.minimum
  earliest := ⟨i, least.inside, rfl, least.earliest⟩
  undefined start := congrArg points (least.undefined start)

def BestSoFar (f : Tensor α → α) (stages : Nat → Stage α (Run α (SubgradientState α))) (n : Nat) :
    Prop :=
  ∃ cost, (stages n).state.own.bestCost = some cost ∧
    BestAmong f (fun i => (stages i).state.own.point) n (stages n).state.own.best cost

structure BestFound (problem : CostProblem α)
    (stages : Nat → Stage α (Run α (SubgradientState α))) (n : Nat) (costs : Nat → α) (i : Nat) :
    Prop where
  found : ∀ j ≤ n, ∃ s t, problem.costAt (stages j).state.own.point s = .ok (costs j) t
  least : EarliestMinimum costs n i
  best : (stages n).state.own.best = (stages i).state.own.point
  bestCost : (stages n).state.own.bestCost = some (costs i)

variable [Ordered α] {problem : CostProblem α} {f : Tensor α → α}

section Runs

variable {recorder : Option (Recorder α)} {first : Stage α (Run α (SubgradientState α))} {n : Nat}
  {stages : Nat → Stage α (Run α (SubgradientState α))}

theorem BestFound.next {costs : Nat → α} {i : Nat} (bestFound : BestFound problem stages n costs i)
    {k : Int} {v p : Tensor α} {length cost best : α}
    (advance : Advance problem k (stages n).state.own (stages (n + 1)).state.own v p length cost
      best) :
    ∃ costs i, BestFound problem stages (n + 1) costs i := by
  obtain ⟨traces, own⟩ := advance.left
  have reached : (stages (n + 1)).state.own.point = p := by rw [own]
  obtain rfl : costs i = best := Option.some.inj (bestFound.bestCost.symm.trans advance.known)
  -- The costs found before, and the one that the step finds at the point it has moved to.
  let further := Function.update costs (n + 1) cost
  have before (j : Nat) (inside : j ≤ n) : further j = costs j :=
    Function.update_of_ne (by omega) _ _
  have last : further (n + 1) = cost := Function.update_self _ _ _
  have least := bestFound.least.congr before
  rw [← before i least.inside, ← last, ← reached] at own
  refine ⟨further, if further (n + 1) < further i then n + 1 else i, ?_, ?_, ?_, ?_⟩
  · intro j inside
    by_cases new : j = n + 1
    · subst new
      rw [last, reached]
      exact advance.evaluated
    · rw [before j (by omega)]
      exact bestFound.found j (by omega)
  · split
    next lower => exact least.improve lower
    next lower => exact least.keep lower
  · rw [own]
    split
    next => rfl
    next => exact bestFound.best
  · rw [own]
    split
    next => rfl
    next => rfl

theorem course_bestFound (course : Solver.Course (solver problem) recorder first n stages) :
    ∃ costs i, BestFound problem stages n costs i := by
  induction n with
  | zero =>
    obtain ⟨s, cost, t, evaluated, own⟩ := prepared_own course.prepared
    refine ⟨fun _ => cost, 0, fun j inside => ⟨s, t, ?_⟩, .start _, by rw [own], by rw [own]⟩
    obtain rfl := Nat.le_zero.mp inside
    rw [own]
    exact evaluated
  | succ n ih =>
    obtain ⟨costs, i, bestFound⟩ := ih (course.shorten (Nat.le_succ n))
    obtain ⟨v, p, length, cost, best, advance, -⟩ := course_advance course (Nat.lt_succ_self n)
    exact bestFound.next advance

theorem course_best (pure : problem.HasCost f)
    (course : Solver.Course (solver problem) recorder first n stages) : BestSoFar f stages n := by
  obtain ⟨costs, i, found, least, best, bestCost⟩ := course_bestFound course
  have value (j : Nat) (inside : j ≤ n) : f (stages j).state.own.point = costs j := by
    obtain ⟨s, t, evaluated⟩ := found j inside
    exact (pure evaluated).symm
  refine ⟨_, bestCost, ?_⟩
  rw [best, ← value i least.inside]
  exact (least.congr value).bestAmong

end Runs

def posedCost (f : Tensor α → α) : StartPoint α → Tensor α → α
  | .number _, p =>
    match firstEntry p with
    | .ok x => f x
    | .error _ => f p
  | _, p => f p

def startArray (M : Manifold α) : StartPoint α → Outcome α (Tensor α)
  | .array p => .ok p
  | .number x => x.toScalar.map fun entry => .vector [entry]
  | .random seed => M.randomPoint seed none

omit [Ordered α] in
theorem liftNumbers_costAt {p : Tensor α} {s t : Trail α} {c : α}
    (evaluated : (liftNumbers problem).costAt p s = .ok c t) :
    ∃ x, firstEntry p = .ok x ∧ problem.costAt x s = .ok c t := by
  obtain ⟨value, u, called, rest⟩ := Attempt.bind_eq_ok.mp evaluated
  obtain ⟨x, entry, called⟩ := Attempt.liftM_bind_eq_ok.mp called
  exact ⟨x, entry, Attempt.bind_eq_ok.mpr ⟨value, u, called, rest⟩⟩

omit [Ordered α] in
theorem posed_hasCost (pure : problem.HasCost f) (start : StartPoint α) :
    (start.posed problem).HasCost (posedCost f start) := by
  intro p s c t evaluated
  cases start with
  | number x =>
    obtain ⟨y, entry, evaluated⟩ := liftNumbers_costAt evaluated
    simp only [posedCost, entry]
    exact pure evaluated
  | array q => exact pure evaluated
  | random seed => exact pure evaluated

omit [Ordered α] in
theorem minimizeFrom_eq_ok {options : Options α} {p : Tensor α} {s t : Trail α}
    {r : Run α (SubgradientState α)} (ended : minimizeFrom problem options p s = .ok r t) :
    ∃ recorder n stages, Recorder.ofOption options.record = .ok recorder ∧
      Solver.StopsAfter (solver problem) recorder ⟨s, prepare problem.manifold options p⟩ n stages
        r := by
  obtain ⟨recorder, given, rest⟩ := Attempt.liftM_bind_eq_ok.mp ended
  obtain ⟨⟨_, r'⟩, u, solved, rest⟩ := Attempt.bind_eq_ok.mp rest
  obtain ⟨_, _, reported, rest⟩ := Attempt.bind_eq_ok.mp rest
  obtain ⟨rfl, -⟩ := Attempt.pure_eq_ok.mp rest
  obtain ⟨n, stages, stops⟩ := Solver.solve_stopsAfter (Stage.runFrom_eq_ok.mp solved)
  exact ⟨recorder, n, stages, given, stops⟩

omit [Ordered α] in
theorem minimize_eq_ok {options : Options α} {start : StartPoint α} {s t : Trail α}
    {r : Run α (SubgradientState α)} (ended : minimize problem options start s = .ok r t) :
    ∃ p, startArray problem.manifold start = .ok p ∧
      ∃ recorder n stages, Recorder.ofOption options.record = .ok recorder ∧
        Solver.StopsAfter (solver (start.posed problem)) recorder
          ⟨s, prepare problem.manifold options p⟩ n stages r := by
  cases start with
  | array p => exact ⟨p, rfl, minimizeFrom_eq_ok ended⟩
  | number x =>
    obtain ⟨entry, read, rest⟩ := Attempt.liftM_bind_eq_ok.mp ended
    exact ⟨.vector [entry], by simp [startArray, read, Except.map], minimizeFrom_eq_ok rest⟩
  | random seed =>
    obtain ⟨p, found, rest⟩ := Attempt.liftM_bind_eq_ok.mp ended
    exact ⟨p, found, minimizeFrom_eq_ok rest⟩

omit [Scalar α] [Ordered α] in
theorem bestNumber_vector {r : Run α (SubgradientState α)} {a : α}
    (single : r.own.best = .vector [a]) : bestNumber r = .ok a := by
  rw [bestNumber, single]
  rfl

omit [Ordered α] in
theorem BestFound.entry {x : Number α} {n : Nat}
    {stages : Nat → Stage α (Run α (SubgradientState α))} {costs : Nat → α} {i : Nat}
    (bestFound : BestFound ((StartPoint.number x).posed problem) stages n costs i) :
    ∃ entry, firstEntry (stages n).state.own.best = .ok entry := by
  obtain ⟨s, t, evaluated⟩ := bestFound.found i bestFound.least.inside
  obtain ⟨entry, taken, -⟩ := liftNumbers_costAt evaluated
  rw [bestFound.best]
  exact ⟨entry, taken⟩

/-- At every stage of a run the best point is the earliest minimizer among the iterates. A run that
ends is one with the given records, up to the first iteration after which the stopping rule fires.
Its best point is that of this stage, and the number returned for a number is the entry of it. -/
theorem earliest_minimizer_returned (pure : problem.HasCost f) :
    (∀ recorder first n stages, Solver.Course (solver problem) recorder first n stages →
      BestSoFar f stages n) ∧
    ∀ options start s t r, minimize problem options start s = .ok r t →
      ∃ p recorder n stages, startArray problem.manifold start = .ok p ∧
        Recorder.ofOption options.record = .ok recorder ∧
        Solver.StopsAfter (solver (start.posed problem)) recorder
          ⟨s, prepare problem.manifold options p⟩ n stages r ∧
        r.iteration = n ∧ r.own = (stages n).state.own ∧
        BestSoFar (posedCost f start) stages n ∧
        ∀ x, start = .number x → ∃ entry, firstEntry r.own.best = .ok entry ∧
          bestNumber r = entry.number ∧ ∀ a, r.own.best = .vector [a] → bestNumber r = .ok a := by
  constructor
  · intro recorder first n stages course
    exact course_best pure course
  · intro options start s t r ended
    obtain ⟨p, set_out, recorder, n, stages, given, stops⟩ := minimize_eq_ok ended
    obtain ⟨memory, rfl⟩ := stops.state
    refine ⟨p, recorder, n, stages, set_out, given, stops, stops.course.iteration_eq (Nat.le_refl n),
      rfl, course_best (posed_hasCost pure start) stops.course, ?_⟩
    rintro x rfl
    obtain ⟨costs, i, bestFound⟩ := course_bestFound stops.course
    obtain ⟨entry, taken⟩ := bestFound.entry
    refine ⟨entry, taken, ?_, fun a single => bestNumber_vector single⟩
    rw [bestNumber, taken]
    rfl

def absoluteValue : CostProblem Float where
  manifold := euclidean [1]
  cost p := return some (.scalar (Scalar.abs (p.entries.headD 0)))
  subgradient := .allocating fun p => return some (p.map Scalar.sign)

theorem absoluteValue_hasCost :
    absoluteValue.HasCost fun p => Scalar.abs (p.entries.headD 0) := by
  intro p s c t evaluated
  cases evaluated
  rfl

theorem earliest_minimizer_absoluteValue :
    ∃ r t, minimize absoluteValue { stop := some (.after 2) } (.number (.real 1.5)) {} = .ok r t ∧
      r.own.point.entries = [-0.5] ∧ r.own.best = .vector [0.5] ∧ bestNumber r = .ok 0.5 ∧
      ∃ recorder stages,
        Solver.StopsAfter (solver (liftNumbers absoluteValue)) recorder
          ⟨{}, prepare (euclidean [1]) { stop := some (.after 2) } (.vector [1.5])⟩ 2 stages r ∧
        r.own = (stages 2).state.own ∧
        BestSoFar (posedCost (fun p => Scalar.abs (p.entries.headD 0)) (.number (.real 1.5))) stages
          2 := by
  have reached : (match minimize absoluteValue { stop := some (.after 2) }
      (.number (.real 1.5)) {} with
    | .ok r _ => some (r.iteration, r.own.point.entries, r.own.best.shape, r.own.best.entries)
    | .error _ _ => none) = some (2, [-0.5], [1], [0.5]) := by decide +kernel
  cases ended : minimize absoluteValue { stop := some (.after 2) } (.number (.real 1.5)) {} with
  | error e t =>
    rw [ended] at reached
    cases reached
  | ok r t =>
    rw [ended] at reached
    obtain ⟨iteration, rest⟩ := Prod.mk.inj (Option.some.inj reached)
    obtain ⟨point, rest⟩ := Prod.mk.inj rest
    obtain ⟨shape, entries⟩ := Prod.mk.inj rest
    have best : r.own.best = .vector [0.5] := Tensor.ext shape entries
    obtain ⟨p, recorder, n, stages, set_out, -, stops, count, own, among, returned⟩ :=
      (earliest_minimizer_returned absoluteValue_hasCost).2 _ _ _ _ _ ended
    obtain ⟨entry, -, -, number⟩ := returned _ rfl
    obtain rfl : n = 2 := Int.ofNat_inj.mp (count.symm.trans iteration)
    cases set_out
    exact ⟨r, t, rfl, point, best, number _ best, recorder, stages, stops, own, among⟩

end Subgradient

end ManifoldOpt
