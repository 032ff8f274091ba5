import ManifoldOpt.Proofs.Stopping.Check

set_option autoImplicit false

namespace ManifoldOpt

namespace Criterion

open Attempt

variable {α : Type}

theorem filterMap_changeCell_sublist (nodes : List (Criterion α)) :
    (nodes.filterMap changeCell?).Sublist (nodes.map index) := by
  induction nodes with
  | nil => exact .slnil
  | cons d rest ih =>
    cases d with
    | changeLess cell tolerance => exact ih.cons_cons cell
    | base cell => exact ih.cons cell
    | afterIteration cell limit => exact ih.cons cell
    | subgradientNormLess cell tolerance => exact ih.cons cell
    | any cell parts => exact ih.cons cell
    | all cell parts => exact ih.cons cell

theorem changeCells_sublist (c : Criterion α) : c.changeCells.Sublist c.cells :=
  filterMap_changeCell_sublist c.nodes

theorem flatMap_changeCells_sublist (parts : List (Criterion α)) :
    (parts.flatMap changeCells).Sublist (parts.flatMap cells) := by
  have below := filterMap_changeCell_sublist (parts.flatMap nodes)
  rw [List.filterMap_flatMap, List.map_flatMap] at below
  exact below

theorem formulaEachAfter_eq_formula {parts : List (Criterion α)} {seen : List Nat}
    (distinct : (parts.flatMap changeCells).Nodup)
    (fresh : List.Disjoint (parts.flatMap changeCells) seen) :
    formulaEachAfter seen parts = parts.map formula := by
  have whole := formulaAfter_eq_formula (any 0 parts) (by rwa [changeCells_any])
    (by rwa [changeCells_any])
  rw [formulaAfter, formula_any] at whole
  exact Formula.any.inj whole

theorem formulaAfter_nil {c : Criterion α} (distinct : c.cells.Nodup) :
    c.formulaAfter [] = c.formula :=
  formulaAfter_eq_formula c ((changeCells_sublist c).nodup distinct) (List.disjoint_nil_right _)

theorem joinConditions_eq_flatten {reasons : List (List (Cause α))} (given : [] ∉ reasons) :
    joinConditions reasons = reasons.flatten := by
  induction reasons with
  | nil => rfl
  | cons first rest ih =>
    simp only [List.mem_cons, not_or] at given
    have lines : reasonLines first = first := by
      simp [reasonLines, Ne.symm given.1]
    rw [joinConditions, List.flatMap_cons, lines, List.flatten_cons]
    exact congrArg (first ++ ·) (ih given.2)

theorem joinAlternatives_eq_flatten {reasons : List (List (Cause α))} (given : [] ∉ reasons)
    (logged : ∀ cause ∈ reasons.flatten, cause.isBlank = false) :
    joinAlternatives reasons = reasons.flatten := by
  have lines : reasons.flatMap reasonLines = reasons.flatten := joinConditions_eq_flatten given
  rw [joinAlternatives, lines]
  -- There is no blank line that could be dropped.
  have kept : reasons.flatten.reverse.dropWhile Cause.isBlank = reasons.flatten.reverse := by
    cases reversed : reasons.flatten.reverse with
    | nil => rfl
    | cons last others =>
      have member : last ∈ reasons.flatten := by
        rw [← List.mem_reverse, reversed]
        exact List.mem_cons_self
      rw [List.dropWhile_cons_of_neg (by simp [logged last member])]
  rw [kept, List.reverse_reverse]

variable [Scalar α] (views : Nat → View α) (k : Nat)

section Fired

variable {m : Memory α} {parts : List (Criterion α)}
  (noted : ∀ c ∈ parts, c.formula.holds (Leaf.fires views k) = true → (m.cell c.index).reason =
    (c.formula.reached (Leaf.fires views k)).map (Leaf.cause views k))

include noted

theorem firedReasons_eq :
    firedReasons m parts (parts.map fun c => c.formula.holds (Leaf.fires views k)) =
      (parts.filter fun c => c.formula.holds (Leaf.fires views k)).map fun c =>
        (c.formula.reached (Leaf.fires views k)).map (Leaf.cause views k) := by
  induction parts with
  | nil => rfl
  | cons c rest ih =>
    have others := ih fun d member => noted d (by simp [member])
    unfold firedReasons at others ⊢
    rw [List.map_cons, List.zip_cons_cons]
    cases holds : c.formula.holds (Leaf.fires views k) with
    | true => simp [holds, others, noted c (by simp) holds]
    | false => simp [holds, others]

theorem firedReasons_flatten :
    (firedReasons m parts (parts.map fun c => c.formula.holds (Leaf.fires views k))).flatten =
      (parts.flatMap fun c => c.formula.reached (Leaf.fires views k)).map (Leaf.cause views k) := by
  rw [firedReasons_eq views k noted, ← List.flatMap_def, List.map_flatMap]
  clear noted
  induction parts with
  | nil => rfl
  | cons c rest ih =>
    rw [List.flatMap_cons, ← ih]
    cases holds : c.formula.holds (Leaf.fires views k) with
    | true => simp [holds]
    | false => simp [holds, Formula.reached_eq_nil]

theorem nil_notMem_firedReasons (filled : ∀ c ∈ parts, c.formula.Filled) :
    [] ∉ firedReasons m parts (parts.map fun c => c.formula.holds (Leaf.fires views k)) := by
  rw [firedReasons_eq views k noted]
  intro member
  obtain ⟨c, part, empty⟩ := List.mem_map.mp member
  obtain ⟨part, holds⟩ := List.mem_filter.mp part
  exact (filled c part).reached_ne_nil _ holds (List.map_eq_nil_iff.mp empty)

theorem isBlank_of_mem_firedReasons {cause : Cause α}
    (member : cause ∈
      (firedReasons m parts (parts.map fun c => c.formula.holds (Leaf.fires views k))).flatten) :
    cause.isBlank = false := by
  rw [firedReasons_flatten views k noted] at member
  obtain ⟨l, reached, rfl⟩ := List.mem_map.mp member
  obtain ⟨c, -, reached⟩ := List.mem_flatMap.mp reached
  exact Leaf.isBlank_cause (Formula.holds_of_mem_reached _ reached)

end Fired

structure Noted (nodes : List (Criterion α)) (old new : Memory α) : Prop where
  length : new.length = old.length
  iteration : ∀ d ∈ nodes, (new.cell d.index).iteration =
    if d.formula.holds (Leaf.fires views k) then (k : Int)
    else if k = 0 then -1 else (old.cell d.index).iteration
  reason : ∀ d ∈ nodes, d.formula.Filled → d.formula.holds (Leaf.fires views k) = true →
    (new.cell d.index).reason = (d.formula.reached (Leaf.fires views k)).map (Leaf.cause views k)
  other : ∀ i ∉ nodes.map index, new.cell i = old.cell i

variable {views k}

theorem Noted.append {nodes nodes' : List (Criterion α)} {m m' m'' : Memory α}
    (first : Noted views k nodes m m') (rest : Noted views k nodes' m' m'')
    (apart : List.Disjoint (nodes.map index) (nodes'.map index)) :
    Noted views k (nodes ++ nodes') m m'' := by
  have before : ∀ d ∈ nodes, m''.cell d.index = m'.cell d.index := fun d member =>
    rest.other d.index (apart (List.mem_map_of_mem member))
  have after : ∀ d ∈ nodes', m'.cell d.index = m.cell d.index := fun d member =>
    first.other d.index fun early => apart early (List.mem_map_of_mem member)
  refine ⟨rest.length.trans first.length, fun d member => ?_, fun d member => ?_, fun i out => ?_⟩
  · rcases List.mem_append.mp member with member | member
    · rw [before d member, first.iteration d member]
    · rw [rest.iteration d member, after d member]
  · rcases List.mem_append.mp member with member | member
    · rw [before d member]
      exact first.reason d member
    · exact rest.reason d member
  · rw [List.map_append, List.mem_append, not_or] at out
    rw [rest.other i out.2, first.other i out.1]

section Whole

variable {c : Criterion α} {nodes : List (Criterion α)} {m m' : Memory α} {f g : Cell α → Cell α}
  (noted : Noted views k nodes (m.update c.index f) m') (own : c.index ∉ nodes.map index)
  (mine : c.index < m.length)

include noted own mine

theorem Noted.cell_whole : (m'.update c.index g).cell c.index = g (f (m.cell c.index)) := by
  have long : c.index < m'.length := by
    rwa [noted.length, Memory.length_update]
  rw [Memory.cell_update_self _ _ _ long, noted.other c.index own,
    Memory.cell_update_self _ _ _ mine]

theorem Noted.whole
    (iteration : (g (f (m.cell c.index))).iteration =
      if c.formula.holds (Leaf.fires views k) then (k : Int)
      else if k = 0 then -1 else (m.cell c.index).iteration)
    (reason : c.formula.Filled → c.formula.holds (Leaf.fires views k) = true →
      (g (f (m.cell c.index))).reason =
        (c.formula.reached (Leaf.fires views k)).map (Leaf.cause views k)) :
    Noted views k (c :: nodes) m (m'.update c.index g) := by
  have here := noted.cell_whole (g := g) own mine
  have apart : ∀ d ∈ nodes, d.index ≠ c.index := by
    intro d member same
    rw [← same] at own
    exact own (List.mem_map_of_mem member)
  constructor
  · rw [Memory.length_update, noted.length, Memory.length_update]
  · intro d member
    rcases List.mem_cons.mp member with rfl | member
    · rw [here, iteration]
    · rw [Memory.cell_update_of_ne _ _ _ (apart d member), noted.iteration d member,
        Memory.cell_update_of_ne _ _ _ (apart d member)]
  · intro d member complete holds
    rcases List.mem_cons.mp member with rfl | member
    · rw [here, reason complete holds]
    · rw [Memory.cell_update_of_ne _ _ _ (apart d member)]
      exact noted.reason d member complete holds
  · intro i out
    rw [List.map_cons, List.mem_cons, not_or] at out
    rw [Memory.cell_update_of_ne _ _ _ out.1, noted.other i out.2,
      Memory.cell_update_of_ne _ _ _ out.1]

end Whole

/-- Whatever has been asked in the same iteration, asking a criterion in which each has a cell of
its own leaves the right notes. -/
def Notes (views : Nat → View α) (k : Nat) (cells : List Nat) (c : Criterion α) : Prop :=
  ∀ seen s t b, Tracked views k cells seen s.state → c.changeCells ⊆ cells →
    List.Disjoint c.changeCells seen → c.cells.Nodup → (∀ i ∈ c.cells, i < s.state.length) →
    check (views k) k c s = .ok b t → Noted views k c.nodes s.state t.state

variable {cells seen : List Nat} {c : Criterion α} {parts : List (Criterion α)}
  {s t : Stage α (Memory α)} {b : Bool}
  (shown : k ≠ 0 → ∀ p v, (views k).subgradient = .ok (p, v) →
    (views (k - 1)).iterate = .ok (some p))

include shown

theorem checkEach_notes {fired : List Bool} (each : ∀ c ∈ parts, Notes views k cells c)
    (tracked : Tracked views k cells seen s.state) (inside : parts.flatMap changeCells ⊆ cells)
    (fresh : List.Disjoint (parts.flatMap changeCells) seen)
    (distinct : (parts.flatMap Criterion.cells).Nodup)
    (room : ∀ i ∈ parts.flatMap Criterion.cells, i < s.state.length)
    (done : checkEach (views k) k parts s = .ok fired t) :
    Noted views k (parts.flatMap nodes) s.state t.state := by
  induction parts generalizing seen s fired with
  | nil =>
    obtain ⟨-, rfl⟩ := pure_eq_ok.mp done
    exact ⟨rfl, by simp, by simp, by simp⟩
  | cons c rest ih =>
    obtain ⟨first, u, asked, done⟩ := bind_eq_ok.mp done
    obtain ⟨others, v, asked', done⟩ := bind_eq_ok.mp done
    obtain ⟨-, rfl⟩ := pure_eq_ok.mp done
    rw [List.flatMap_cons] at inside fresh distinct room ⊢
    obtain ⟨inside, inside'⟩ := List.append_subset.mp inside
    obtain ⟨fresh, fresh'⟩ := List.disjoint_append_left.mp fresh
    obtain ⟨distinct, distinct', apart⟩ := List.nodup_append'.mp distinct
    have noted := each c (by simp) seen s u first tracked inside fresh distinct
      (fun i member => room i (by simp [member])) asked
    obtain ⟨-, after⟩ := check_decides shown c seen s u first tracked inside asked
    -- The criteria that follow share no cell with the first one.
    have later : List.Disjoint (rest.flatMap changeCells) (seen ++ c.changeCells) := by
      refine List.disjoint_append_right.mpr ⟨fresh', fun i member early => ?_⟩
      obtain ⟨d, part, below⟩ := List.mem_flatMap.mp member
      exact apart ((changeCells_sublist c).subset early)
        (List.mem_flatMap.mpr ⟨d, part, (changeCells_sublist d).subset below⟩)
    have noted' := ih (fun d member => each d (by simp [member])) after inside' later distinct'
      (fun i member => by
        rw [noted.length]
        exact room i (by simp [member])) asked'
    refine noted.append noted' ?_
    rw [List.map_flatMap]
    exact apart

theorem check_leaf_notes {l : Leaf α} (kind : c.formula = .leaf l)
    (tracked : Tracked views k cells seen s.state) (inside : c.changeCells ⊆ cells)
    (fresh : List.Disjoint c.changeCells seen) (distinct : c.cells.Nodup)
    (room : ∀ i ∈ c.cells, i < s.state.length) (done : check (views k) k c s = .ok b t) :
    Noted views k [c] s.state t.state := by
  have same := formulaAfter_eq_formula c ((changeCells_sublist c).nodup distinct) fresh
  obtain ⟨rfl, -, f, left, iteration, reason⟩ :=
    check_leaf shown (same.trans kind) tracked inside done
  have here : t.state.cell c.index = f (s.state.cell c.index) := by
    rw [left, Memory.cell_update_self _ _ _ (room _ (index_mem_cells c))]
  rw [left] at here
  constructor
  · rw [left, Memory.length_update]
  · intro d member
    obtain rfl := List.mem_singleton.mp member
    rw [left, here, iteration, kind, Formula.holds_leaf]
  · intro d member _ holds
    obtain rfl := List.mem_singleton.mp member
    rw [kind, Formula.holds_leaf] at holds
    rw [left, here, reason holds, kind, Formula.reached_leaf, if_pos holds]
    rfl
  · intro i out
    rw [left]
    exact Memory.cell_update_of_ne _ _ _ (by simpa using out)

theorem combine_notes {test : List Bool → Bool} {join : List (List (Cause α)) → List (Cause α)}
    (made : c.nodes = c :: parts.flatMap nodes)
    (truth : c.formula.holds (Leaf.fires views k) =
      test (parts.map fun d => d.formula.holds (Leaf.fires views k)))
    (reach : c.formula.holds (Leaf.fires views k) = true →
      c.formula.reached (Leaf.fires views k) =
        parts.flatMap fun d => d.formula.reached (Leaf.fires views k))
    (filled : c.formula.Filled → ∀ d ∈ parts, d.formula.Filled)
    (joins : ∀ reasons, [] ∉ reasons → (∀ cause ∈ reasons.flatten, cause.isBlank = false) →
      join reasons = reasons.flatten)
    (each : ∀ d ∈ parts, Notes views k cells d) (tracked : Tracked views k cells seen s.state)
    (inside : parts.flatMap changeCells ⊆ cells)
    (fresh : List.Disjoint (parts.flatMap changeCells) seen) (distinct : c.cells.Nodup)
    (room : ∀ i ∈ c.cells, i < s.state.length)
    (done : (do
      if (k : Int) = 0 then c.change Cell.reset
      let fired ← checkEach (views k) k parts
      if test fired then c.fire k (join (← reasons parts fired)) else return false) s = .ok b t) :
    Noted views k c.nodes s.state t.state := by
  obtain ⟨fired, u, asked, rfl, left⟩ := combine_eq_ok done
  have below : c.cells = c.index :: parts.flatMap Criterion.cells := by
    rw [Criterion.cells, made, List.map_cons, List.map_flatMap]
    rfl
  rw [below] at distinct room
  obtain ⟨own, distinct⟩ := List.nodup_cons.mp distinct
  have reset := tracked.update c.index (f := fun cell => if k = 0 then cell.reset else cell)
    fun cell => by split <;> rfl
  obtain ⟨rfl, -⟩ := checkEach_decides (fun d _ => check_decides shown d) reset inside asked
  have noted := checkEach_notes shown each reset inside fresh distinct
    (fun i member => by
      rw [Memory.length_update]
      exact room i (by simp [member])) asked
  rw [formulaEachAfter_eq_formula ((flatMap_changeCells_sublist parts).nodup distinct) fresh,
    List.map_map] at left
  have answer : test (parts.map (Formula.holds (Leaf.fires views k) ∘ formula)) =
      c.formula.holds (Leaf.fires views k) := truth.symm
  rw [answer] at left
  rw [made, left]
  refine noted.whole (by rwa [List.map_flatMap]) (room _ (by simp)) ?_ fun complete holds => ?_
  · cases holds : c.formula.holds (Leaf.fires views k) with
    | true => rfl
    | false =>
      rw [if_neg Bool.false_ne_true, if_neg Bool.false_ne_true]
      split <;> rfl
  · have parted : ∀ d ∈ parts, d.formula.holds (Leaf.fires views k) = true → _ := fun d part =>
      noted.reason d (List.mem_flatMap.mpr ⟨d, part, mem_nodes_self d⟩) (filled complete d part)
    rw [holds, if_pos rfl, reach holds, ← firedReasons_flatten views k parted]
    exact joins _ (nil_notMem_firedReasons views k parted (filled complete)) fun cause member =>
      isBlank_of_mem_firedReasons views k parted member

theorem check_notes (c : Criterion α) : Notes views k cells c := by
  induction c with
  | base cell =>
    intro seen s t b _ _ _ _ _ done
    exact absurd done throw_ne_ok
  | afterIteration cell limit =>
    intro seen s t b tracked inside fresh distinct room done
    exact check_leaf_notes shown rfl tracked inside fresh distinct room done
  | changeLess cell tolerance =>
    intro seen s t b tracked inside fresh distinct room done
    exact check_leaf_notes shown rfl tracked inside fresh distinct room done
  | subgradientNormLess cell tolerance =>
    intro seen s t b tracked inside fresh distinct room done
    exact check_leaf_notes shown rfl tracked inside fresh distinct room done
  | any cell parts ih =>
    intro seen s t b tracked inside fresh distinct room done
    rw [check] at done
    rw [changeCells_any] at inside fresh
    refine combine_notes shown (nodes_any cell parts) ?_ ?_ ?_ ?_ ih tracked inside fresh distinct
      room done
    · rw [formula_any, Formula.holds_any, List.any_map, List.any_map]
      rfl
    · intro _
      rw [formula_any, Formula.reached_any, List.flatMap_map]
    · intro filled d part
      rw [formula_any] at filled
      exact (Formula.filled_any.mp filled).2 _ (List.mem_map_of_mem part)
    · exact fun reasons => joinAlternatives_eq_flatten
  | all cell parts ih =>
    intro seen s t b tracked inside fresh distinct room done
    rw [check] at done
    rw [changeCells_all] at inside fresh
    refine combine_notes shown (nodes_all cell parts) ?_ ?_ ?_ ?_ ih tracked inside fresh distinct
      room done
    · rw [formula_all, Formula.holds_all, List.all_map, List.all_map]
      rfl
    · intro holds
      rw [formula_all, Formula.holds_all] at holds
      rw [formula_all, Formula.reached_all, if_pos holds, List.flatMap_map]
    · intro filled d part
      rw [formula_all] at filled
      exact (Formula.filled_all.mp filled).2 _ (List.mem_map_of_mem part)
    · exact fun reasons given _ => joinConditions_eq_flatten given

end Criterion

end ManifoldOpt
