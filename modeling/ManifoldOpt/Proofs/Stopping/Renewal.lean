import ManifoldOpt.Proofs.Solver.Events
import ManifoldOpt.Proofs.Stopping.Check

set_option autoImplicit false

namespace ManifoldOpt

open Attempt Stage

def Cell.note {α : Type} (cell : Cell α) : List (Cause α) × Int := (cell.reason, cell.iteration)

theorem Cell.eq_of_parts {α : Type} {cell cell' : Cell α} (note : cell.note = cell'.note)
    (measurement : cell.measurement = cell'.measurement) : cell = cell' := by
  obtain ⟨reason, iteration, lastChange, previous⟩ := cell
  obtain ⟨rfl, rfl⟩ := Prod.mk.inj note
  obtain ⟨rfl, rfl⟩ := Prod.mk.inj measurement
  rfl

namespace Memory

structure AgreeOn {α : Type} (noted measured : Nat → Prop) (m m' : Memory α) : Prop where
  length : m.length = m'.length
  note : ∀ i, noted i → (m.cell i).note = (m'.cell i).note
  measurement : ∀ i, measured i → (m.cell i).measurement = (m'.cell i).measurement

section AgreeOn

variable {α : Type} {noted measured : Nat → Prop} {m m' m'' : Memory α}

theorem AgreeOn.refl (m : Memory α) : AgreeOn noted measured m m :=
  ⟨rfl, fun _ _ => rfl, fun _ _ => rfl⟩

theorem AgreeOn.mono {noted' measured' : Nat → Prop} (agree : AgreeOn noted measured m m')
    (notes : ∀ i, noted' i → noted i) (measures : ∀ i, measured' i → measured i) :
    AgreeOn noted' measured' m m' :=
  ⟨agree.length, fun i known => agree.note i (notes i known),
    fun i known => agree.measurement i (measures i known)⟩

theorem AgreeOn.eq (agree : AgreeOn noted measured m m') (notes : ∀ i, noted i)
    (measures : ∀ i, measured i) : m = m' := by
  refine List.ext_getElem agree.length fun i inside inside' => ?_
  have same : m.cell i = m'.cell i :=
    Cell.eq_of_parts (agree.note i (notes i)) (agree.measurement i (measures i))
  simpa [cell, inside, inside'] using same

theorem field_update_same {β : Type} (field : Cell α → β) (length : m.length = m'.length) {i : Nat}
    {f : Cell α → Cell α} (here : field (f (m.cell i)) = field (f (m'.cell i))) {j : Nat}
    (elsewhere : j ≠ i → field (m.cell j) = field (m'.cell j)) :
    field ((m.update i f).cell j) = field ((m'.update i f).cell j) := by
  by_cases same : j = i
  · subst same
    by_cases inside : j < m.length
    · rw [cell_update_self m j f inside, cell_update_self m' j f (length ▸ inside)]
      exact here
    -- There is no such cell on either side.
    · have outside : m.length ≤ j := Nat.not_lt.mp inside
      simp [update, cell, outside, length ▸ outside]
  · rw [cell_update_of_ne m i f same, cell_update_of_ne m' i f same]
    exact elsewhere same

theorem AgreeOn.write (agree : AgreeOn noted measured m m') (i : Nat) {f : Cell α → Cell α}
    (writes : ∀ c c', (f c).note = (f c').note) (keeps : ∀ c, (f c).measurement = c.measurement) :
    AgreeOn (fun j => noted j ∨ j = i) measured (m.update i f) (m'.update i f) where
  length := by simpa using agree.length
  note j known :=
    field_update_same Cell.note agree.length (writes _ _) fun other =>
      agree.note j (known.resolve_right other)
  measurement j known := by
    rw [m.field_update i f _ keeps, m'.field_update i f _ keeps]
    exact agree.measurement j known

theorem AgreeOn.overwrite (agree : AgreeOn noted measured m m') (i : Nat) (cell : Cell α) :
    AgreeOn (fun j => noted j ∨ j = i) (fun j => measured j ∨ j = i) (m.update i fun _ => cell)
      (m'.update i fun _ => cell) where
  length := by simpa using agree.length
  note j known :=
    field_update_same Cell.note agree.length rfl fun other =>
      agree.note j (known.resolve_right other)
  measurement j known :=
    field_update_same Cell.measurement agree.length rfl fun other =>
      agree.measurement j (known.resolve_right other)

theorem AgreeOn.write_right (agree : AgreeOn noted measured m m') {i : Nat} {f : Cell α → Cell α}
    (unnoted : ¬ noted i)
    (unmeasured : (∀ cell, (f cell).measurement = cell.measurement) ∨ ¬ measured i) :
    AgreeOn noted measured m (m'.update i f) where
  length := by simpa using agree.length
  note j known := by
    rw [cell_update_of_ne m' i f fun same => unnoted (same ▸ known)]
    exact agree.note j known
  measurement j known := by
    rcases unmeasured with keeps | unmeasured
    · rw [m'.field_update i f _ keeps]
      exact agree.measurement j known
    · rw [cell_update_of_ne m' i f fun same => unmeasured (same ▸ known)]
      exact agree.measurement j known

end AgreeOn

end Memory

namespace Criterion

variable {α : Type} (noted measured : Nat → Prop)

def AgreeAfter (asked : List (Criterion α)) : Memory α → Memory α → Prop :=
  Memory.AgreeOn (fun i => noted i ∨ i ∈ asked.map index)
    fun i => measured i ∨ i ∈ asked.filterMap changeCell?

variable {noted measured} {asked : List (Criterion α)} {c : Criterion α}
  {s t : Stage α (Memory α)}

theorem change_agrees (before : Alike (AgreeAfter noted measured asked) s t)
    (plain : c.changeCell? = none) {f : Cell α → Cell α}
    (writes : ∀ c c', (f c).note = (f c').note) (keeps : ∀ c, (f c).measurement = c.measurement) :
    Decided True (Alike (AgreeAfter noted measured (asked ++ [c]))) (c.change f s)
      (c.change f t) := by
  refine .ok trivial ⟨before.tally, (before.state.write c.index writes keeps).mono ?_ ?_⟩
  · simp [or_assoc]
  · simp [plain]

theorem reset_agrees (before : Alike (AgreeAfter noted measured asked) s t)
    (plain : c.changeCell? = none) :
    Decided True (Alike (AgreeAfter noted measured (asked ++ [c]))) (c.change Cell.reset s)
      (c.change Cell.reset t) :=
  change_agrees before plain (fun _ _ => rfl) fun _ => rfl

theorem fire_agrees (before : Alike (Memory.AgreeOn noted measured) s t) (k : Int)
    (reason : List (Cause α)) :
    Decided True (Alike (Memory.AgreeOn noted measured)) (c.fire k reason s)
      (c.fire k reason t) := by
  refine .ok trivial ⟨before.tally, ?_⟩
  have after := before.state.write c.index (f := fun cell => { cell with reason, iteration := k })
    (fun _ _ => rfl) fun _ => rfl
  exact after.mono (fun _ => .inl) fun _ => id

theorem fire_if_agrees (before : Alike (Memory.AgreeOn noted measured) s t) (k : Int) (fires : Bool)
    (reason : List (Cause α)) :
    Decided True (Alike (Memory.AgreeOn noted measured))
      ((if fires then c.fire k reason else return false : Check α Bool) s)
      ((if fires then c.fire k reason else return false : Check α Bool) t) := by
  cases fires with
  | true => exact fire_agrees before k reason
  | false => exact .ok trivial before

theorem reasons_agree {parts : List (Criterion α)} {fired : List Bool}
    (agree : Alike (Memory.AgreeOn noted measured) s t) (known : ∀ c ∈ parts, noted c.index) :
    (parts.zip fired).filterMap (fun entry =>
        if entry.2 then some (s.state.cell entry.1.index).reason else none) =
      (parts.zip fired).filterMap fun entry =>
        if entry.2 then some (t.state.cell entry.1.index).reason else none := by
  refine List.filterMap_congr fun entry member => ?_
  have same := agree.state.note entry.1.index (known _ (List.of_mem_zip member).1)
  rw [(Prod.mk.inj same).1]

variable [Scalar α] {view view' : View α}

/-- However criteria have been used before, asking them at iteration zero leaves the same behind and
gives the same answer. -/
def Renewed (noted measured : Nat → Prop) (view view' : View α) (c : Criterion α) : Prop :=
  ∀ asked s t, Alike (AgreeAfter noted measured asked) s t →
    Decided c.Askable (Alike (AgreeAfter noted measured (asked ++ opened [c])))
      (check view 0 c s) (check view' 0 c t)

theorem checkEach_renewed {parts : List (Criterion α)}
    (each : ∀ c ∈ parts, Renewed noted measured view view' c)
    (before : Alike (AgreeAfter noted measured asked) s t) :
    Decided (∀ c ∈ parts, c.Askable) (Alike (AgreeAfter noted measured (asked ++ opened parts)))
      (checkEach view 0 parts s) (checkEach view' 0 parts t) := by
  -- With every part that answers, what it opens joins the criteria that have been asked.
  induction parts generalizing asked s t with
  | nil =>
    rw [opened_nil, List.append_nil]
    exact .ok nofun before
  | cons c rest ih =>
    rw [checkEach, checkEach, List.forall_mem_cons]
    refine (each c (by simp) asked s t before).bind (fun unaskable => ?_) ?_
    · have same : opened (c :: rest) = opened [c] := opened_cons_of_not_askable unaskable
      rw [same]
      exact ⟨fun both => unaskable both.1, fun _ _ after => after⟩
    · intro askable first s t between
      rw [opened_singleton askable] at between
      rw [opened_cons_of_askable askable, ← List.append_assoc]
      refine (ih (fun d member => each d (by simp [member])) between).bind ?_ ?_
      · exact fun unaskable => ⟨fun both => unaskable both.2, fun _ _ after => after⟩
      · exact fun others fired s t after => .ok ⟨askable, others⟩ after

theorem combine_renewed {parts : List (Criterion α)} {test : List Bool → Bool}
    {join : List (List (Cause α)) → List (Cause α)} (plain : c.changeCell? = none)
    (each : ∀ c ∈ parts, Renewed noted measured view view' c)
    (before : Alike (AgreeAfter noted measured asked) s t) :
    Decided (∀ c ∈ parts, c.Askable)
      (Alike (AgreeAfter noted measured (asked ++ c :: opened parts)))
      ((do
        if (0 : Int) = 0 then c.change Cell.reset
        let fired ← checkEach view 0 parts
        if test fired then c.fire 0 (join (← reasons parts fired)) else return false :
          Check α Bool) s)
      ((do
        if (0 : Int) = 0 then c.change Cell.reset
        let fired ← checkEach view' 0 parts
        if test fired then c.fire 0 (join (← reasons parts fired)) else return false :
          Check α Bool) t) := by
  rw [if_pos rfl, if_pos rfl, List.append_cons]
  refine (reset_agrees before plain).bind (fun impossible => absurd trivial impossible)
    fun _ _ s t between => ?_
  refine (checkEach_renewed each between).bind (fun unaskable => ⟨unaskable, fun _ _ => id⟩) ?_
  intro askable fired s t after
  refine Decided.congr ?_ (iff_of_true trivial askable)
  cases test fired with
  | false => exact .ok trivial after
  | true =>
    -- The parts have been asked by now, so that their reasons are the same.
    have known : ∀ d ∈ parts, noted d.index ∨
        d.index ∈ (asked ++ [c] ++ opened parts).map index := fun d member =>
      .inr (List.mem_map_of_mem (List.mem_append_right _ (mem_opened askable member)))
    change Decided _ _ (c.fire 0 (join _) s) (c.fire 0 (join _) t)
    rw [reasons_agree after known]
    exact fire_agrees after 0 _

theorem checkChange_zero {cell : Nat} {tolerance : Number α} {M : Manifold α} {p : Tensor α}
    (known : view.manifold = .ok M) (shown : view.iterate = .ok (some p)) :
    (changeLess cell tolerance).checkChange tolerance view 0 s =
      .ok false { s with state := s.state.update cell fun _ => { previous := some p } } := by
  have point : view.point = .ok p := by
    rw [View.point, shown]
    rfl
  rw [checkChange, known, liftM_ok_bind, shown, liftM_ok_bind, if_pos rfl, point]
  refine (bind_of_ok (t := { s with
    state := s.state.update cell fun cell => { cell.reset with lastChange := none } }) rfl).trans ?_
  refine (bind_of_ok (m := liftM (Except.ok p)) rfl).trans ?_
  refine (bind_of_ok rfl).trans ?_
  refine congrArg (fun m : Memory α => EStateM.Result.ok false (Stage.mk s.trail m)) ?_
  exact s.state.update_update cell (fun cell => { cell.reset with lastChange := none })
    fun cell => { cell with previous := some p }

theorem check_renewed {M : Manifold α} {p : Tensor α} (known : view.manifold = .ok M)
    (known' : view'.manifold = .ok M) (shown : view.iterate = .ok (some p))
    (shown' : view'.iterate = .ok (some p)) (c : Criterion α) :
    Renewed noted measured view view' c := by
  induction c with
  | base cell =>
    intro asked s t before
    rw [opened_base, List.append_nil]
    exact .error (fun askable => nomatch askable (base cell) (mem_nodes_self _)) before
  | afterIteration cell limit =>
    intro asked s t before
    refine Decided.congr ?_ (iff_of_true trivial (askable_leaf rfl rfl))
    rw [opened_leaf rfl rfl]
    exact (reset_agrees before rfl).bind (fun impossible => absurd trivial impossible)
      fun _ _ s t between => fire_if_agrees between 0 _ _
  | changeLess cell tolerance =>
    intro asked s t before
    refine Decided.congr (p := True) ?_ (iff_of_true trivial (askable_leaf rfl rfl))
    rw [opened_leaf rfl rfl, check, check, checkChange_zero known shown,
      checkChange_zero known' shown']
    refine .ok trivial ⟨before.tally, (before.state.overwrite cell _).mono ?_ ?_⟩
    · simp [or_assoc, index]
    · simp [or_assoc, changeCell?]
  | subgradientNormLess cell tolerance =>
    intro asked s t before
    refine Decided.congr ?_ (iff_of_true trivial (askable_leaf rfl rfl))
    rw [opened_leaf rfl rfl]
    exact (reset_agrees before rfl).bind (fun impossible => absurd trivial impossible)
      fun _ _ s t between => .ok trivial between
  | any cell parts ih =>
    intro asked s t before
    rw [check, check, askable_any, opened_any]
    exact combine_renewed rfl ih before
  | all cell parts ih =>
    intro asked s t before
    rw [check, check, askable_all, opened_all]
    exact combine_renewed rfl ih before

end Criterion

namespace StoppingRule

variable {α : Type}

/-- A rule and the same rule after it has been asked any number of times. Only criteria that are
reached when the rule is asked have changed, and only those that measure changes in what they
measure. -/
structure AfterUse (rule rule' : StoppingRule α) : Prop where
  root : rule'.root = rule.root
  memory : Memory.AgreeOn (fun i => i ∉ (Criterion.opened [rule.root]).map Criterion.index)
    (fun i => i ∉ (Criterion.opened [rule.root]).filterMap Criterion.changeCell?)
    rule.memory rule'.memory

theorem AfterUse.refl (rule : StoppingRule α) : rule.AfterUse rule := ⟨rfl, .refl _⟩

variable [Scalar α] {rule rule' : StoppingRule α} {view view' : View α}

theorem AfterUse.ask_zero (used : rule.AfterUse rule') {M : Manifold α} {p : Tensor α}
    (known : view.manifold = .ok M) (known' : view'.manifold = .ok M)
    (shown : view.iterate = .ok (some p)) (shown' : view'.iterate = .ok (some p))
    {s t : Trail α} (tally : s.tally = t.tally) :
    Agree (Alike Eq) Eq (rule.ask view 0 ⟨s, rule.memory⟩)
      (rule'.ask view' 0 ⟨t, rule'.memory⟩) := by
  unfold ask
  rw [used.root]
  have before : Criterion.AgreeAfter
      (fun i => i ∉ (Criterion.opened [rule.root]).map Criterion.index)
      (fun i => i ∉ (Criterion.opened [rule.root]).filterMap Criterion.changeCell?) []
      rule.memory rule'.memory :=
    used.memory.mono (fun _ asked => asked.resolve_right List.not_mem_nil)
      fun _ asked => asked.resolve_right List.not_mem_nil
  have renewed := Criterion.check_renewed known known' shown shown' rule.root []
    ⟨s, rule.memory⟩ ⟨t, rule'.memory⟩ ⟨tally, before⟩
  -- A cell belongs to a criterion that has been asked by now, or it is as it was in the beginning.
  refine renewed.agree.mono (fun u v after => ⟨after.tally, after.state.eq ?_ ?_⟩) fun _ _ => id
  · exact fun i => (Classical.em _).symm
  · exact fun i => (Classical.em _).symm

theorem AfterUse.asked (k : Int) :
    Keeps (fun s => rule.AfterUse ⟨rule.root, s.state⟩) (rule.root.check view k) := by
  refine Criterion.check_keeps ?_ ?_ (fun event s before => before) k
  · intro d member f keeps s before
    refine ⟨rfl, before.memory.write_right ?_ (.inl keeps)⟩
    exact fun other => other (List.mem_map_of_mem member)
  · intro cell tolerance f member s before
    refine ⟨rfl, before.memory.write_right ?_ (.inr ?_)⟩
    · exact fun other => other (List.mem_map_of_mem member)
    · exact fun other => other (List.mem_filterMap.mpr ⟨_, member, rfl⟩)

theorem AfterUse.ask (used : rule.AfterUse rule') (view : View α) (k : Int) :
    Keeps (fun s => rule.AfterUse ⟨rule.root, s.state⟩) (rule'.ask view k) := by
  rw [StoppingRule.ask, used.root]
  exact AfterUse.asked k

end StoppingRule

end ManifoldOpt
