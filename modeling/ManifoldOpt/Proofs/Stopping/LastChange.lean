import ManifoldOpt.Proofs.Stopping.Run

set_option autoImplicit false

namespace ManifoldOpt

open Attempt

namespace Criterion

variable {α : Type} [Scalar α] {views : Nat → View α} {k i : Nat} {cells seen : List Nat}
  {m : Memory α} {s t : Stage α (Memory α)} {b : Bool}

/-- If the criterion of a cell has been asked at iteration `k`, the cell holds the change that has
led there. -/
def Remembers (views : Nat → View α) (k i : Nat) (seen : List Nat) (m : Memory α) : Prop :=
  i ∈ seen → ∃ x, changeSize (views (k - 1)) (views k) = .ok x ∧ (m.cell i).lastChange = some x

theorem Remembers.update (remembers : Remembers views k i seen m) (j : Nat) {f : Cell α → Cell α}
    (keeps : ∀ cell, (f cell).lastChange = cell.lastChange) :
    Remembers views k i seen (m.update j f) := by
  intro asked
  rw [m.field_update j f Cell.lastChange keeps]
  exact remembers asked

def Remembering (views : Nat → View α) (k i : Nat) (cells : List Nat) (c : Criterion α) : Prop :=
  ∀ seen s t b, Tracked views k cells seen s.state → c.changeCells ⊆ cells →
    (seen ++ c.changeCells).count i ≤ 1 → Remembers views k i seen s.state →
      check (views k) k c s = .ok b t → Remembers views k i (seen ++ c.changeCells) t.state

section Asking

variable (later : k ≠ 0) (shown : k ≠ 0 → ∀ p v, (views k).subgradient = .ok (p, v) →
  (views (k - 1)).iterate = .ok (some p))

include shown

theorem checkEach_remembering {parts : List (Criterion α)} {fired : List Bool}
    (each : ∀ c ∈ parts, Remembering views k i cells c) (tracked : Tracked views k cells seen s.state)
    (inside : parts.flatMap changeCells ⊆ cells)
    (once : (seen ++ parts.flatMap changeCells).count i ≤ 1)
    (remembers : Remembers views k i seen s.state)
    (done : checkEach (views k) k parts s = .ok fired t) :
    Remembers views k i (seen ++ parts.flatMap changeCells) t.state := by
  induction parts generalizing seen s fired with
  | nil =>
    obtain ⟨-, rfl⟩ := pure_eq_ok.mp done
    simpa using remembers
  | cons c rest ih =>
    obtain ⟨first, u, asked, done⟩ := bind_eq_ok.mp done
    obtain ⟨others, v, asked', done⟩ := bind_eq_ok.mp done
    obtain ⟨rfl, rfl⟩ := pure_eq_ok.mp done
    simp only [List.flatMap_cons, List.append_subset] at inside
    rw [List.flatMap_cons, ← List.append_assoc] at once ⊢
    have before : (seen ++ c.changeCells).count i ≤ 1 :=
      Nat.le_trans ((List.sublist_append_left _ _).count_le i) once
    have after := each c (by simp) seen s u first tracked inside.1 before remembers asked
    obtain ⟨-, tracked'⟩ := check_decides shown c seen s u first tracked inside.1 asked
    exact ih (fun d member => each d (by simp [member])) tracked' inside.2 once after asked'

theorem checkEach_reset_remembering {parts : List (Criterion α)} {fired : List Bool} {cell : Nat}
    (each : ∀ c ∈ parts, Remembering views k i cells c) (tracked : Tracked views k cells seen s.state)
    (inside : parts.flatMap changeCells ⊆ cells)
    (once : (seen ++ parts.flatMap changeCells).count i ≤ 1)
    (remembers : Remembers views k i seen s.state)
    (done : checkEach (views k) k parts { s with
      state := s.state.update cell fun cell => if k = 0 then cell.reset else cell } = .ok fired t) :
    Remembers views k i (seen ++ parts.flatMap changeCells) t.state := by
  let restart (cell : Cell α) : Cell α := if k = 0 then cell.reset else cell
  have kept (cell : Cell α) : (restart cell).previous = cell.previous ∧
      (restart cell).lastChange = cell.lastChange := by
    dsimp only [restart]
    split <;> exact ⟨rfl, rfl⟩
  exact checkEach_remembering shown each (tracked.update cell fun c => (kept c).1) inside once
    (remembers.update cell fun c => (kept c).2) done

include later

theorem check_remembering (c : Criterion α) : Remembering views k i cells c := by
  induction c with
  | base cell =>
    intro seen s t b _ _ _ _ done
    exact absurd done throw_ne_ok
  | afterIteration cell limit =>
    intro seen s t b _ _ _ remembers done
    obtain ⟨-, left⟩ := checkBudget_eq_ok done
    rw [left, changeCells_afterIteration, List.append_nil]
    exact remembers.update cell (Cell.lastChange_asked k _ _)
  | subgradientNormLess cell tolerance =>
    intro seen s t b _ _ _ remembers done
    obtain ⟨reason, left, -⟩ := checkSubgradient_eq_ok done
    rw [left, changeCells_subgradientNormLess, List.append_nil]
    exact remembers.update cell (Cell.lastChange_asked k _ _)
  | changeLess cell tolerance =>
    intro seen s t b tracked inside once remembers done
    obtain ⟨current, last, reason, iterate, left, -, measured⟩ := checkChange_eq_ok done
    obtain ⟨M, size, known, distance, -, -, rfl⟩ := measured later
    have member : cell ∈ cells := inside (by simp)
    intro asked
    rw [changeCells_changeLess] at once asked
    rw [left, index]
    by_cases here : cell = i
    · subst here
      -- The criterion is asked for the first time, so that it remembers the iterate before.
      have fresh : cell ∉ seen := by
        intro earlier
        have twice := List.count_pos_iff.mpr earlier
        rw [List.count_append, List.count_singleton_self] at once
        omega
      have before := tracked.before later cell member fresh
      refine ⟨size, changeSize_eq_ok known before iterate distance, ?_⟩
      rw [Memory.cell_update_self _ _ _ (tracked.room cell member)]
    · have earlier : i ∈ seen := by
        simpa [Ne.symm here] using asked
      rw [Memory.cell_update_of_ne _ _ _ (Ne.symm here)]
      exact remembers earlier
  | any cell parts ih =>
    intro seen s t b tracked inside once remembers done
    rw [check] at done
    obtain ⟨fired, u, each, -, left⟩ := combine_eq_ok (c := any cell parts) done
    rw [changeCells_any] at inside once ⊢
    rw [left]
    exact (checkEach_reset_remembering shown ih tracked inside once remembers each).update cell
      fun cell => by split <;> rfl
  | all cell parts ih =>
    intro seen s t b tracked inside once remembers done
    rw [check] at done
    obtain ⟨fired, u, each, -, left⟩ := combine_eq_ok (c := all cell parts) done
    rw [changeCells_all] at inside once ⊢
    rw [left]
    exact (checkEach_reset_remembering shown ih tracked inside once remembers each).update cell
      fun cell => by split <;> rfl

end Asking

end Criterion

namespace Solver

variable {α S : Type} [Scalar α] {solver : Solver α S} {recorder : Option (Recorder α)}
  {first : Stage α (Run α S)} {n : Nat} {stages : Nat → Stage α (Run α S)} {root : Criterion α}

theorem Course.lastChange (lawful : solver.Lawful) (course : Course solver recorder first n stages)
    (given : first.state.stop.root = root)
    (room : ∀ i ∈ root.changeCells, i < first.state.stop.memory.length) (later : n ≠ 0) {i : Nat}
    (once : root.changeCells.count i = 1) {answer : Bool} {t : Stage α (Run α S)}
    (asked : solver.shouldStop n (stages n) = .ok answer t) :
    ∃ x, changeSize (views solver stages (n - 1)) (views solver stages n) = .ok x ∧
      (t.state.stop.memory.cell i).lastChange = some x := by
  obtain ⟨u, checked, left⟩ := shouldStop_eq_ok asked
  rw [course.root lawful (Nat.le_refl n), given] at checked
  have tracked := course.tracked lawful given room (Nat.le_refl n)
  rw [left]
  refine Criterion.check_remembering later (course.shown lawful (Nat.le_refl n)) root [] _ u answer
    tracked (List.Subset.refl _) (Nat.le_of_eq once) nofun checked ?_
  exact List.count_pos_iff.mp (by rw [List.nil_append]; omega)

end Solver

end ManifoldOpt
