import ManifoldOpt.Proofs.Solver.Lawful
import ManifoldOpt.Proofs.Stopping.Firing

/-!
Stopping rules along a run. The memory after one iteration is the one that the next iteration is
asked with, so that what one asking leaves behind holds for the whole run: the criteria that measure
changes remember the iterate before, and each notes the last iteration at which it was true.
-/

set_option autoImplicit false

namespace ManifoldOpt

def lastTrue (p : Nat → Bool) : Nat → Int
  | 0 => if p 0 then 0 else -1
  | n + 1 => if p (n + 1) then (n + 1 : Nat) else lastTrue p n

theorem lastTrue_self {p : Nat → Bool} {n : Nat} (holds : p n = true) : lastTrue p n = n := by
  cases n with
  | zero => simp [lastTrue, holds]
  | succ n => simp [lastTrue, holds]

theorem lastTrue_nonneg (p : Nat → Bool) (n : Nat) : 0 ≤ lastTrue p n ↔ ∃ k ≤ n, p k = true := by
  induction n with
  | zero =>
    cases start : p 0 <;> simp [lastTrue, start]
  | succ n ih =>
    cases last : p (n + 1) with
    | true =>
      simp only [lastTrue, last, if_true, Int.natCast_nonneg, true_iff]
      exact ⟨n + 1, Nat.le_refl _, last⟩
    | false =>
      simp only [lastTrue, last, Bool.false_eq_true, if_false, ih]
      constructor
      · rintro ⟨k, inside, holds⟩
        exact ⟨k, by omega, holds⟩
      · rintro ⟨k, inside, holds⟩
        have other : k ≠ n + 1 := by
          rintro rfl
          rw [last] at holds
          cases holds
        exact ⟨k, by omega, holds⟩

namespace Solver

open Attempt

variable {α S : Type} [Scalar α]

def views (solver : Solver α S) (stages : Nat → Stage α (Run α S)) (k : Nat) : View α :=
  solver.view (stages k).state.own

variable {solver : Solver α S} {recorder : Option (Recorder α)} {first : Stage α (Run α S)}
  {n : Nat} {stages : Nat → Stage α (Run α S)}

theorem shouldStop_eq_ok {k : Int} {s t : Stage α (Run α S)} {answer : Bool}
    (asked : solver.shouldStop k s = .ok answer t) :
    ∃ u, s.state.stop.root.check (solver.view s.state.own) k ⟨s.trail, s.state.stop.memory⟩ =
        .ok answer u ∧
      t.state = { s.state with stop := ⟨s.state.stop.root, u.state⟩ } := by
  obtain ⟨_, _, read, rest⟩ := bind_eq_ok.mp asked
  cases read
  obtain ⟨u, checked, rfl⟩ := Stage.within_eq_ok.mp rest
  exact ⟨u, checked, rfl⟩

theorem Course.solve_eq (course : Course solver recorder first n stages) (allowance : Nat) :
    solver.solve (allowance + n) recorder first = solver.loop allowance n (stages n) := by
  have reached : ∀ k ≤ n, solver.solve (allowance + n) recorder first =
      solver.loop (allowance + (n - k)) k (stages k) := by
    intro k
    induction k with
    | zero =>
      intro _
      change EStateM.bind (solver.prepare recorder) _ first = _
      rw [EStateM.bind, course.prepared]
      rfl
    | succ k ih =>
      intro inside
      obtain ⟨t, asked, iterated⟩ := course.continued k inside
      rw [ih (by omega), show allowance + (n - k) = allowance + (n - (k + 1)) + 1 by omega]
      change EStateM.bind (solver.shouldStop k) _ (stages k) = _
      rw [EStateM.bind, asked]
      change EStateM.bind (solver.iterate (k + 1)) _ t = _
      rw [EStateM.bind, iterated]
  have last := reached n (Nat.le_refl n)
  rwa [Nat.sub_self] at last

theorem Course.solve_stops (course : Course solver recorder first n stages)
    {t : Stage α (Run α S)} (fired : solver.shouldStop n (stages n) = .ok true t) {allowance : Nat}
    (enough : n < allowance) : solver.solve allowance recorder first = solver.finish n t := by
  obtain ⟨more, rfl⟩ := Nat.exists_eq_add_of_lt enough
  rw [show n + more + 1 = more + 1 + n by omega, course.solve_eq]
  change EStateM.bind (solver.shouldStop n) _ (stages n) = _
  rw [EStateM.bind, fired]
  rfl

theorem Lawful.prepare_stop (lawful : solver.Lawful) {s t : Stage α (Run α S)}
    (done : solver.prepare recorder s = .ok () t) : t.state.stop = s.state.stop := by
  obtain ⟨r, u, kept, set, left⟩ := prepare_state done
  have same := lawful.setUp set
  rw [left]
  exact same

theorem Course.asked (lawful : solver.Lawful) (course : Course solver recorder first n stages)
    {k : Nat} (inside : k < n) :
    ∃ t, solver.shouldStop k (stages k) = .ok false t ∧
      (stages (k + 1)).state.stop = t.state.stop := by
  obtain ⟨t, asked, iterated⟩ := course.continued k inside
  obtain ⟨u, kept, stepped, reached⟩ := iterate_state iterated
  refine ⟨t, asked, ?_⟩
  rw [reached]
  exact lawful.step stepped

theorem Course.root (lawful : solver.Lawful) (course : Course solver recorder first n stages)
    {k : Nat} (inside : k ≤ n) : (stages k).state.stop.root = first.state.stop.root := by
  induction k with
  | zero => rw [lawful.prepare_stop course.prepared]
  | succ k ih =>
    obtain ⟨t, asked, left⟩ := course.asked lawful inside
    obtain ⟨u, -, same⟩ := shouldStop_eq_ok asked
    rw [left, same]
    exact ih (by omega)

theorem Course.shown (lawful : solver.Lawful) (course : Course solver recorder first n stages)
    {k : Nat} (inside : k ≤ n) (later : k ≠ 0) (p v : Tensor α)
    (taken : (views solver stages k).subgradient = .ok (p, v)) :
    (views solver stages (k - 1)).iterate = .ok (some p) := by
  obtain ⟨j, rfl⟩ := Nat.exists_eq_succ_of_ne_zero later
  obtain ⟨t, u, memory, kept, stepped, asked, reached⟩ := course.stepped inside
  have same : solver.view t.state.own = views solver stages j := by
    rw [asked]
    rfl
  rw [Nat.succ_sub_one, ← same]
  refine lawful.shown stepped (v := v) ?_
  rw [← taken, views, Nat.succ_eq_add_one, reached]

section Deciding

variable (lawful : solver.Lawful) (course : Course solver recorder first n stages)
  {root : Criterion α} (given : first.state.stop.root = root)

include lawful course given

theorem Course.tracked (room : ∀ i ∈ root.changeCells, i < first.state.stop.memory.length) {k : Nat}
    (inside : k ≤ n) :
    Criterion.Tracked (views solver stages) k root.changeCells []
      (stages k).state.stop.memory := by
  induction k with
  | zero =>
    rw [lawful.prepare_stop course.prepared]
    exact ⟨room, nofun, fun later => absurd rfl later⟩
  | succ k ih =>
    have before := ih (by omega)
    obtain ⟨t, asked, left⟩ := course.asked lawful inside
    obtain ⟨u, checked, same⟩ := shouldStop_eq_ok asked
    rw [course.root lawful (by omega), given] at checked
    obtain ⟨-, after⟩ := Criterion.check_decides (course.shown lawful (by omega)) root _ _ _ _
      before (List.Subset.refl _) checked
    rw [left, same]
    -- What is current at one iteration is what the next change is measured from.
    exact ⟨after.room, nofun, fun _ i member _ => after.now i member (by simpa using member)⟩

/-- A stopping rule decides its formula, in which a criterion that has been asked in the same
iteration already counts as measuring a standstill. -/
theorem Course.decides (room : ∀ i ∈ root.changeCells, i < first.state.stop.memory.length)
    {answer : Bool} {t : Stage α (Run α S)}
    (asked : solver.shouldStop n (stages n) = .ok answer t) :
    answer = (root.formulaAfter []).holds (Leaf.fires (views solver stages) n) := by
  obtain ⟨u, checked, -⟩ := shouldStop_eq_ok asked
  rw [course.root lawful (Nat.le_refl n), given] at checked
  exact (Criterion.check_decides (course.shown lawful (Nat.le_refl n)) root _ _ _ _
    (course.tracked lawful given room (Nat.le_refl n)) (List.Subset.refl _) checked).1

theorem Course.undecided (room : ∀ i ∈ root.changeCells, i < first.state.stop.memory.length)
    {k : Nat} (inside : k < n) :
    (root.formulaAfter []).holds (Leaf.fires (views solver stages) k) = false := by
  obtain ⟨t, asked, -⟩ := course.continued k inside
  exact ((course.shorten (Nat.le_of_lt inside)).decides lawful given room asked).symm

def StopsWhen (solver : Solver α S) (recorder : Option (Recorder α)) (first : Stage α (Run α S))
    (f : Formula (Leaf α)) : Prop :=
  ∀ n stages answer t, Course solver recorder first n stages →
    solver.shouldStop n (stages n) = .ok answer t →
      (∀ k < n, f.holds (Leaf.fires (views solver stages) k) = false) ∧
      answer = f.holds (Leaf.fires (views solver stages) n) ∧
      (answer = true → ∀ allowance > n, solver.solve allowance recorder first = solver.finish n t)

omit course in
theorem Lawful.stopsWhen (room : ∀ i ∈ root.changeCells, i < first.state.stop.memory.length) :
    StopsWhen solver recorder first (root.formulaAfter []) := by
  intro n stages answer t course asked
  refine ⟨fun k before => course.undecided lawful given room before,
    course.decides lawful given room asked, fun fired allowance enough => ?_⟩
  subst fired
  exact course.solve_stops asked enough

end Deciding

theorem Lawful.stopsWhen_formula (lawful : solver.Lawful) {root : Criterion α}
    (given : first.state.stop.root = root) (distinct : root.cells.Nodup)
    (room : ∀ i ∈ root.cells, i < first.state.stop.memory.length) :
    StopsWhen solver recorder first root.formula := by
  rw [← Criterion.formulaAfter_nil distinct]
  exact lawful.stopsWhen given fun i member =>
    room i ((Criterion.changeCells_sublist root).subset member)

theorem StopsWhen.same {f g : Formula (Leaf α)} (stops : StopsWhen solver recorder first f)
    (same : ∀ v, f.holds v = g.holds v) : StopsWhen solver recorder first g := by
  intro n stages answer t course asked
  obtain ⟨never, decided, ends⟩ := stops n stages answer t course asked
  exact ⟨fun k before => (same _).symm.trans (never k before), decided.trans (same _), ends⟩

theorem StopsWhen.of_ended {f : Formula (Leaf α)} (stops : StopsWhen solver recorder first f)
    {allowance : Nat} {last : Stage α (Run α S)}
    (ended : solver.solve allowance recorder first = .ok () last) :
    ∃ n stages t, Course solver recorder first n stages ∧
      solver.shouldStop n (stages n) = .ok true t ∧ last.state = t.state ∧
      f.holds (Leaf.fires (views solver stages) n) = true ∧
      ∀ k < n, f.holds (Leaf.fires (views solver stages) k) = false := by
  obtain ⟨n, stages, t, course, fired, finished⟩ := solve_eq_ok ended
  obtain ⟨never, decided, -⟩ := stops n stages true t course fired
  exact ⟨n, stages, t, course, fired, finish_state finished, decided.symm, never⟩

section Remembering

variable (lawful : solver.Lawful) (course : Course solver recorder first n stages)
  {root : Criterion α} (given : first.state.stop.root = root) (distinct : root.cells.Nodup)
  (room : ∀ i ∈ root.cells, i < first.state.stop.memory.length)

include lawful course given distinct room

theorem Course.noted_of_length
    (long : (stages n).state.stop.memory.length = first.state.stop.memory.length)
    {answer : Bool} {t : Stage α (Run α S)}
    (asked : solver.shouldStop n (stages n) = .ok answer t) :
    Criterion.Noted (views solver stages) n root.nodes (stages n).state.stop.memory
      t.state.stop.memory := by
  obtain ⟨u, checked, left⟩ := shouldStop_eq_ok asked
  rw [course.root lawful (Nat.le_refl n), given] at checked
  have below : ∀ i ∈ root.changeCells, i < first.state.stop.memory.length := fun i member =>
    room i ((Criterion.changeCells_sublist root).subset member)
  rw [left]
  exact Criterion.check_notes (course.shown lawful (Nat.le_refl n)) root _ _ _ _
    (course.tracked lawful given below (Nat.le_refl n)) (List.Subset.refl _)
    (List.disjoint_nil_right _) distinct (by rwa [long]) checked

theorem Course.length {k : Nat} (inside : k ≤ n) :
    (stages k).state.stop.memory.length = first.state.stop.memory.length := by
  induction k with
  | zero => rw [lawful.prepare_stop course.prepared]
  | succ k ih =>
    obtain ⟨t, asked, left⟩ := course.asked lawful inside
    have long := ih (by omega)
    rw [left]
    exact ((course.shorten (Nat.le_of_lt inside)).noted_of_length lawful given distinct room long
      asked).length.trans long

theorem Course.noted {answer : Bool} {t : Stage α (Run α S)}
    (asked : solver.shouldStop n (stages n) = .ok answer t) :
    Criterion.Noted (views solver stages) n root.nodes (stages n).state.stop.memory
      t.state.stop.memory :=
  course.noted_of_length lawful given distinct room
    (course.length lawful given distinct room (Nat.le_refl n)) asked

theorem Course.iteration {answer : Bool} {t : Stage α (Run α S)}
    (asked : solver.shouldStop n (stages n) = .ok answer t) {d : Criterion α}
    (member : d ∈ root.nodes) :
    (t.state.stop.memory.cell d.index).iteration =
      lastTrue (fun k => d.formula.holds (Leaf.fires (views solver stages) k)) n := by
  have noted := (course.noted lawful given distinct room asked).iteration d member
  induction n generalizing answer t with
  | zero => exact noted
  | succ n ih =>
    obtain ⟨u, asked', left⟩ := course.asked lawful (Nat.lt_succ_self n)
    have earlier := course.shorten (Nat.le_succ n)
    have before := ih earlier asked'
      ((earlier.noted lawful given distinct room asked').iteration d member)
    rw [noted, left, before, if_neg (Nat.succ_ne_zero n)]
    rfl

end Remembering

end Solver

end ManifoldOpt
