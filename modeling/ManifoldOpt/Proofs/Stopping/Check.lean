import ManifoldOpt.Proofs.Attempt
import ManifoldOpt.Proofs.Stopping.Tree

/-!
What asking a criterion does. It decides the formula of the criterion and leaves the current iterate
with all criteria that measure changes. If every criterion has a cell of its own, each notes when it
fired last, and why.
-/

set_option autoImplicit false

namespace ManifoldOpt

open Attempt

namespace Memory

variable {α : Type} (m : Memory α) (i : Nat) (f g : Cell α → Cell α)

@[simp] theorem length_update : (m.update i f).length = m.length := List.length_set

theorem cell_update_self (inside : i < m.length) : (m.update i f).cell i = f (m.cell i) := by
  simp [update, cell, inside]

theorem cell_update_of_ne {j : Nat} (other : j ≠ i) : (m.update i f).cell j = m.cell j := by
  simp [update, cell, List.getElem?_set_ne other.symm]

theorem field_update {β : Type} (field : Cell α → β) (keeps : ∀ cell, field (f cell) = field cell)
    (j : Nat) : field ((m.update i f).cell j) = field (m.cell j) := by
  by_cases here : j = i
  · subst here
    by_cases inside : j < m.length
    · rw [cell_update_self m j f inside, keeps]
    · simp [update, List.set_eq_of_length_le (Nat.not_lt.mp inside)]
  · rw [cell_update_of_ne m i f here]

theorem update_update : (m.update i f).update i g = m.update i (g ∘ f) := by
  by_cases inside : i < m.length
  · simp [update, cell, inside]
  · simp [update, List.set_eq_of_length_le (Nat.not_lt.mp inside)]

theorem update_id : m.update i id = m := by
  by_cases inside : i < m.length
  · simp [update, cell, inside]
  · simp [update, List.set_eq_of_length_le (Nat.not_lt.mp inside)]

end Memory

namespace Cell

variable {α : Type} (k : Nat) (reason : List (Cause α)) (answer : Bool) (cell : Cell α)

def asked : Cell α :=
  let cell := if k = 0 then cell.reset else cell
  if answer then { cell with reason, iteration := k } else cell

@[simp] theorem previous_asked : (cell.asked k reason answer).previous = cell.previous := by
  cases answer <;> by_cases first : k = 0 <;> simp [asked, first, reset]

@[simp] theorem lastChange_asked : (cell.asked k reason answer).lastChange = cell.lastChange := by
  cases answer <;> by_cases first : k = 0 <;> simp [asked, first, reset]

theorem iteration_asked : (cell.asked k reason answer).iteration =
    if answer then (k : Int) else if k = 0 then -1 else cell.iteration := by
  cases answer <;> by_cases first : k = 0 <;> simp [asked, first, reset]

theorem reason_asked (fired : answer = true) : (cell.asked k reason answer).reason = reason := by
  simp [asked, fired]

end Cell

namespace Criterion

variable {α : Type} {c : Criterion α} {k : Nat} {s t : Stage α (Memory α)} {b : Bool}

theorem fire_if_eq_ok {fires : Bool} {reason : List (Cause α)}
    (done : (if fires then c.fire k reason else return false : Check α Bool) s = .ok b t) :
    b = fires ∧ t.state = s.state.update c.index fun cell =>
      if fires then { cell with reason, iteration := k } else cell := by
  cases fires with
  | false =>
    obtain ⟨rfl, rfl⟩ := pure_eq_ok.mp done
    exact ⟨rfl, (Memory.update_id _ _).symm⟩
  | true =>
    cases done
    exact ⟨rfl, rfl⟩

theorem reset_if_eq_ok {β : Type} {rest : Check α β} {x : β}
    (done : (do
      if (k : Int) = 0 then c.change Cell.reset
      rest) s = .ok x t) :
    rest { s with state := s.state.update c.index fun cell => if k = 0 then cell.reset else cell } =
      .ok x t := by
  by_cases first : k = 0
  · subst first
    exact done
  · have later : (k : Int) ≠ 0 := by omega
    rw [if_neg later] at done
    simp only [first, if_false]
    rw [show (fun cell : Cell α => cell) = id from rfl, Memory.update_id]
    exact done

variable [Scalar α] {view : View α}

theorem checkBudget_eq_ok {limit : Number α} (done : c.checkBudget limit k s = .ok b t) :
    b = limit.le (.int k) ∧
      t.state = s.state.update c.index (Cell.asked k [.budget limit] b) := by
  obtain ⟨rfl, left⟩ := fire_if_eq_ok (reset_if_eq_ok done)
  refine ⟨rfl, ?_⟩
  rw [left, Memory.update_update]
  rfl

theorem checkChange_eq_ok {tolerance : Number α}
    (done : c.checkChange tolerance view k s = .ok b t) :
    ∃ current last reason, view.iterate = .ok current ∧
      t.state = s.state.update c.index (fun cell =>
        { cell.asked k reason b with lastChange := last, previous := current }) ∧
      (k = 0 → b = false) ∧
      (k ≠ 0 → ∃ M size, view.manifold = .ok M ∧
        distBetween M (s.state.cell c.index).previous current = .ok size ∧
        b = (Number.real size).lt tolerance ∧ reason = [.change k size tolerance] ∧
        last = some size) := by
  obtain ⟨M, known, rest⟩ := liftM_bind_eq_ok.mp done
  obtain ⟨current, shown, rest⟩ := liftM_bind_eq_ok.mp rest
  by_cases first : k = 0
  · subst first
    obtain ⟨_, _, reset, rest⟩ := bind_eq_ok.mp rest
    cases reset
    obtain ⟨p, point, rest⟩ := liftM_bind_eq_ok.mp rest
    obtain ⟨_, _, kept, rest⟩ := bind_eq_ok.mp rest
    cases kept
    obtain ⟨rfl, rfl⟩ := pure_eq_ok.mp rest
    -- The point that is shown is the iterate.
    obtain rfl : current = some p := by
      obtain ⟨seen, shown', given⟩ := Outcome.bind_eq_ok.mp point
      rw [shown] at shown'
      cases shown'
      cases current with
      | none => cases given
      | some q => rw [Except.ok.inj given]
    refine ⟨some p, none, [], shown, ?_, fun _ => rfl, fun later => absurd rfl later⟩
    dsimp only
    rw [Memory.update_update]
    rfl
  · have later : (k : Int) ≠ 0 := by omega
    rw [if_neg later] at rest
    obtain ⟨_, _, read, rest⟩ := bind_eq_ok.mp rest
    cases read
    obtain ⟨size, measured, rest⟩ := liftM_bind_eq_ok.mp rest
    obtain ⟨_, _, kept, rest⟩ := bind_eq_ok.mp rest
    cases kept
    obtain ⟨rfl, left⟩ := fire_if_eq_ok rest
    refine ⟨current, some size, [.change k size tolerance], shown, ?_,
      fun zero => absurd zero first, fun _ => ⟨M, size, known, measured, rfl, rfl, rfl⟩⟩
    dsimp only at left
    rw [left, Memory.update_update]
    refine congrArg (Memory.update c.index · s.state) (funext fun cell => ?_)
    cases fires : (Number.real size).lt tolerance <;> simp [Cell.asked, first]

theorem checkSubgradient_eq_ok {tolerance : Number α}
    (done : c.checkSubgradient tolerance view k s = .ok b t) :
    ∃ reason, t.state = s.state.update c.index (Cell.asked k reason b) ∧ (k = 0 → b = false) ∧
      (k ≠ 0 → ∃ M p v size, view.manifold = .ok M ∧ view.subgradient = .ok (p, v) ∧
        M.normNumber p v = .ok size ∧ b = (Number.real size).lt tolerance ∧
        reason = [.subgradientNorm size tolerance]) := by
  unfold checkSubgradient at done
  by_cases first : k = 0
  · subst first
    cases done
    exact ⟨[], rfl, fun _ => rfl, fun later => absurd rfl later⟩
  · have later : (k : Int) ≠ 0 := by omega
    rw [if_neg later] at done
    obtain ⟨M, known, rest⟩ := liftM_bind_eq_ok.mp done
    obtain ⟨⟨p, v⟩, shown, rest⟩ := liftM_bind_eq_ok.mp rest
    obtain ⟨size, measured, rest⟩ := liftM_bind_eq_ok.mp rest
    obtain ⟨rfl, left⟩ := fire_if_eq_ok rest
    refine ⟨[.subgradientNorm size tolerance], ?_, fun zero => absurd zero first,
      fun _ => ⟨M, p, v, size, known, shown, measured, rfl, rfl⟩⟩
    rw [left]
    refine congrArg (Memory.update c.index · s.state) (funext fun cell => ?_)
    cases fires : (Number.real size).lt tolerance <;> simp [Cell.asked, first]

omit [Scalar α] in
def firedReasons (m : Memory α) (parts : List (Criterion α)) (fired : List Bool) :
    List (List (Cause α)) :=
  (parts.zip fired).filterMap fun entry =>
    if entry.2 then some (m.cell entry.1.index).reason else none

theorem combine_eq_ok {parts : List (Criterion α)} {test : List Bool → Bool}
    {join : List (List (Cause α)) → List (Cause α)}
    (done : (do
      if (k : Int) = 0 then c.change Cell.reset
      let fired ← checkEach view k parts
      if test fired then c.fire k (join (← reasons parts fired)) else return false) s = .ok b t) :
    ∃ fired u,
      checkEach view k parts { s with
        state := s.state.update c.index fun cell => if k = 0 then cell.reset else cell } =
          .ok fired u ∧
      b = test fired ∧
      t.state = u.state.update c.index fun cell =>
        if test fired then
          { cell with reason := join (firedReasons u.state parts fired), iteration := k }
        else cell := by
  obtain ⟨fired, u, each, rest⟩ := bind_eq_ok.mp (reset_if_eq_ok done)
  refine ⟨fired, u, each, ?_⟩
  cases fires : test fired with
  | false =>
    rw [fires] at rest
    obtain ⟨rfl, rfl⟩ := pure_eq_ok.mp rest
    exact ⟨rfl, (Memory.update_id _ _).symm⟩
  | true =>
    rw [fires] at rest
    cases rest
    exact ⟨rfl, rfl⟩

/-- The remembered iterates of the given cells at iteration `k`: where a criterion has been asked
already it is the current one, and the one before elsewhere. -/
structure Tracked (views : Nat → View α) (k : Nat) (cells seen : List Nat) (m : Memory α) :
    Prop where
  room : ∀ i ∈ cells, i < m.length
  now : ∀ i ∈ cells, i ∈ seen → (views k).iterate = .ok (m.cell i).previous
  before : k ≠ 0 → ∀ i ∈ cells, i ∉ seen → (views (k - 1)).iterate = .ok (m.cell i).previous

variable {views : Nat → View α} {cells seen : List Nat} {m : Memory α}

theorem Tracked.update (tracked : Tracked views k cells seen m) (i : Nat) {f : Cell α → Cell α}
    (keeps : ∀ cell, (f cell).previous = cell.previous) :
    Tracked views k cells seen (m.update i f) := by
  have same := Memory.field_update m i f Cell.previous keeps
  constructor
  · simpa using tracked.room
  · intro j member earlier
    rw [same]
    exact tracked.now j member earlier
  · intro later j member fresh
    rw [same]
    exact tracked.before later j member fresh

theorem Tracked.remember (tracked : Tracked views k cells seen m) {i : Nat} (member : i ∈ cells)
    {f : Cell α → Cell α} {current : Option (Tensor α)}
    (shown : (views k).iterate = .ok current) (keeps : ∀ cell, (f cell).previous = current) :
    Tracked views k cells (seen ++ [i]) (m.update i f) := by
  have here : ((m.update i f).cell i).previous = current := by
    rw [Memory.cell_update_self m i f (tracked.room i member), keeps]
  constructor
  · simpa using tracked.room
  · intro j inside earlier
    by_cases same : j = i
    · subst same
      rw [here, shown]
    · rw [Memory.cell_update_of_ne m i f same]
      exact tracked.now j inside (by simpa [same] using earlier)
  · intro later j inside fresh
    simp only [List.mem_append, List.mem_singleton, not_or] at fresh
    rw [Memory.cell_update_of_ne m i f fresh.2]
    exact tracked.before later j inside fresh.1

/-- Whatever has been asked in the same iteration, a criterion answers with its formula and leaves
the current iterate with the criteria in it that measure changes. -/
def Decides (views : Nat → View α) (k : Nat) (cells : List Nat) (c : Criterion α) : Prop :=
  ∀ seen s t b, Tracked views k cells seen s.state → c.changeCells ⊆ cells →
    check (views k) k c s = .ok b t →
    b = (c.formulaAfter seen).holds (Leaf.fires views k) ∧
      Tracked views k cells (seen ++ c.changeCells) t.state

theorem checkEach_decides {parts : List (Criterion α)} {fired : List Bool}
    (each : ∀ c ∈ parts, Decides views k cells c) (tracked : Tracked views k cells seen s.state)
    (inside : parts.flatMap changeCells ⊆ cells)
    (done : checkEach (views k) k parts s = .ok fired t) :
    fired = (formulaEachAfter seen parts).map (Formula.holds (Leaf.fires views k)) ∧
      Tracked views k cells (seen ++ parts.flatMap changeCells) t.state := by
  induction parts generalizing seen s fired with
  | nil =>
    obtain ⟨rfl, rfl⟩ := pure_eq_ok.mp done
    exact ⟨rfl, by simpa using tracked⟩
  | cons c rest ih =>
    obtain ⟨first, u, asked, done⟩ := bind_eq_ok.mp done
    obtain ⟨others, v, asked', done⟩ := bind_eq_ok.mp done
    obtain ⟨rfl, rfl⟩ := pure_eq_ok.mp done
    simp only [List.flatMap_cons, List.append_subset] at inside
    obtain ⟨rfl, after⟩ := each c (by simp) seen s u first tracked inside.1 asked
    obtain ⟨rfl, after⟩ := ih (fun d member => each d (by simp [member])) after inside.2 asked'
    exact ⟨rfl, by simpa using after⟩

section Asking

variable (shown : k ≠ 0 → ∀ p v, (views k).subgradient = .ok (p, v) →
  (views (k - 1)).iterate = .ok (some p))

include shown

theorem check_leaf {l : Leaf α} (kind : c.formulaAfter seen = .leaf l)
    (tracked : Tracked views k cells seen s.state) (inside : c.changeCells ⊆ cells)
    (done : check (views k) k c s = .ok b t) :
    b = l.fires views k ∧ Tracked views k cells (seen ++ c.changeCells) t.state ∧
      ∃ f, t.state = s.state.update c.index f ∧
        (∀ cell, (f cell).iteration =
          if b then (k : Int) else if k = 0 then -1 else cell.iteration) ∧
        (b = true → ∀ cell, (f cell).reason = [l.cause views k]) := by
  cases c with
  | base cell => cases kind
  | any cell parts => cases kind
  | all cell parts => cases kind
  | afterIteration cell limit =>
    cases kind
    obtain ⟨rfl, left⟩ := checkBudget_eq_ok done
    have kept := tracked.update cell (Cell.previous_asked k [.budget limit] (limit.le (.int k)))
    refine ⟨rfl, ?_, _, left, Cell.iteration_asked k _ _, fun fired cell =>
      Cell.reason_asked k _ _ cell fired⟩
    rw [left, changeCells_afterIteration, List.append_nil]
    exact kept
  | changeLess cell tolerance =>
    cases kind
    obtain ⟨current, last, reason, iterate, left, zero, later⟩ := checkChange_eq_ok done
    have member : cell ∈ cells := inside (by simp)
    have remembered : Tracked views k cells (seen ++ [cell]) t.state := by
      rw [left]
      exact tracked.remember member iterate fun _ => rfl
    by_cases first : k = 0
    · subst first
      obtain rfl := zero rfl
      exact ⟨Leaf.fires_zero.symm, remembered, _, left, Cell.iteration_asked 0 reason false, nofun⟩
    · obtain ⟨M, size, known, measured, rfl, rfl, -⟩ := later first
      have sized : (if cell ∈ seen then Measure.standstill else .change).size views k =
          .ok size := by
        split
        · -- What is remembered is what is shown.
          rename_i earlier
          obtain rfl := Except.ok.inj ((tracked.now cell member earlier).symm.trans iterate)
          exact changeSize_eq_ok known iterate iterate measured
        · rename_i fresh
          exact changeSize_eq_ok known (tracked.before first cell member fresh) iterate measured
      refine ⟨(Leaf.fires_of_size first sized).symm, remembered, _, left,
        Cell.iteration_asked k _ _, fun fired cell => ?_⟩
      rw [Leaf.cause_of_size sized]
      refine (Cell.reason_asked k _ _ cell fired).trans ?_
      split <;> rfl
  | subgradientNormLess cell tolerance =>
    cases kind
    obtain ⟨reason, left, zero, later⟩ := checkSubgradient_eq_ok done
    have kept : Tracked views k cells (seen ++ []) t.state := by
      rw [left, List.append_nil]
      exact tracked.update cell (Cell.previous_asked k reason b)
    by_cases first : k = 0
    · subst first
      obtain rfl := zero rfl
      exact ⟨Leaf.fires_zero.symm, kept, _, left, Cell.iteration_asked 0 reason false, nofun⟩
    · obtain ⟨M, p, v, size, known, taken, measured, rfl, rfl⟩ := later first
      have sized : Measure.subgradientNorm.size views k = .ok size :=
        subgradientSize_eq_ok known (shown first p v taken) taken measured
      refine ⟨(Leaf.fires_of_size first sized).symm, kept, _, left, Cell.iteration_asked k _ _,
        fun fired cell => ?_⟩
      rw [Leaf.cause_of_size sized]
      exact Cell.reason_asked k _ _ cell fired

theorem check_decides (c : Criterion α) : Decides views k cells c := by
  induction c with
  | base cell =>
    intro seen s t b _ _ done
    exact absurd done throw_ne_ok
  | afterIteration cell limit =>
    intro seen s t b tracked inside done
    obtain ⟨answer, kept, -⟩ := check_leaf shown rfl tracked inside done
    exact ⟨answer, kept⟩
  | changeLess cell tolerance =>
    intro seen s t b tracked inside done
    obtain ⟨answer, kept, -⟩ := check_leaf shown rfl tracked inside done
    exact ⟨answer, kept⟩
  | subgradientNormLess cell tolerance =>
    intro seen s t b tracked inside done
    obtain ⟨answer, kept, -⟩ := check_leaf shown rfl tracked inside done
    exact ⟨answer, kept⟩
  | any cell parts ih =>
    intro seen s t b tracked inside done
    rw [check] at done
    obtain ⟨fired, u, each, rfl, left⟩ := combine_eq_ok (c := any cell parts) done
    rw [changeCells_any] at inside ⊢
    have reset := tracked.update cell (f := fun cell => if k = 0 then cell.reset else cell)
      fun cell => by split <;> rfl
    obtain ⟨rfl, after⟩ := checkEach_decides ih reset inside each
    refine ⟨by rw [formulaAfter, Formula.holds_any, List.any_map]; rfl, ?_⟩
    rw [left]
    exact after.update cell fun cell => by split <;> rfl
  | all cell parts ih =>
    intro seen s t b tracked inside done
    rw [check] at done
    obtain ⟨fired, u, each, rfl, left⟩ := combine_eq_ok (c := all cell parts) done
    rw [changeCells_all] at inside ⊢
    have reset := tracked.update cell (f := fun cell => if k = 0 then cell.reset else cell)
      fun cell => by split <;> rfl
    obtain ⟨rfl, after⟩ := checkEach_decides ih reset inside each
    refine ⟨by rw [formulaAfter, Formula.holds_all, List.all_map]; rfl, ?_⟩
    rw [left]
    exact after.update cell fun cell => by split <;> rfl

end Asking

end Criterion

end ManifoldOpt
