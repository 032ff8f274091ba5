import ManifoldOpt.Proofs.Solver.Ending
import ManifoldOpt.Proofs.Stopping.Run

set_option autoImplicit false

namespace ManifoldOpt

open Attempt

namespace Recorder

section Columns

variable {α : Type} (r : Recorder α) (f g : Field)

def grow (row : List (Field × Entry α)) : Recorder α :=
  row.foldl (fun r entry => r.append entry.1 entry.2) r

theorem lookup_cons_of_ne {β : Type} {f g : Field} (other : g ≠ f) (x : β)
    (rest : List (Field × β)) : ((f, x) :: rest).lookup g = rest.lookup g := by
  rw [List.lookup_cons, beq_false_of_ne other]

theorem column?_append (entry : Entry α) :
    (r.append f entry).column? g =
      (r.column? g).map fun entries => if g = f then entries ++ [entry] else entries := by
  unfold column? append
  have named (c : Field × List (Entry α)) :
      (if c.1 = f then (c.1, c.2 ++ [entry]) else c) =
        (c.1, if c.1 = f then c.2 ++ [entry] else c.2) := by
    split <;> rfl
  simp only [named]
  induction r.columns with
  | nil => rfl
  | cons column rest ih =>
    obtain ⟨h, entries⟩ := column
    by_cases here : g = h
    · subst here
      simp
    · rw [List.map_cons, lookup_cons_of_ne here, lookup_cons_of_ne here, ih]

theorem column?_grow (row : List (Field × Entry α)) :
    (r.grow row).column? f =
      (r.column? f).map (· ++ (row.filter (·.1 = f)).map Prod.snd) := by
  induction row generalizing r with
  | nil => simp [grow]
  | cons entry rest ih =>
    change ((r.append entry.1 entry.2).grow rest).column? f = _
    rw [ih, column?_append, Option.map_map]
    refine congrArg (Option.map · (r.column? f)) (funext fun entries => ?_)
    by_cases same : f = entry.1
    · simp [same]
    · have other : entry.1 ≠ f := fun h => same h.symm
      simp [same, other]

theorem lookup_emptyColumns (fields : List Field) :
    (emptyColumns fields : List (Field × List (Entry α))).lookup f =
      if f ∈ fields then some [] else none := by
  have every (fields : List Field) :
      (fields.map fun f => (f, ([] : List (Entry α)))).lookup f =
        if f ∈ fields then some [] else none := by
    induction fields with
    | nil => rfl
    | cons g rest ih =>
      by_cases here : f = g
      · simp [here]
      · rw [List.map_cons, lookup_cons_of_ne here, ih]
        simp [here]
  rw [emptyColumns, every]
  simp only [List.mem_eraseDups]

@[simp] theorem fields_grow (row : List (Field × Entry α)) : (r.grow row).fields = r.fields := by
  induction row generalizing r with
  | nil => rfl
  | cons entry rest ih => exact ih (r.append entry.1 entry.2)

end Columns

variable {α : Type} [Scalar α] {view : View α} {size : Option α} {k : Int}
  {previous : Option (Tensor α)} {s t : Stage α (Recorder α)}

structure Row (view : View α) (size : Option α) (k : Int) (previous : Option (Tensor α))
    (fields : List Field) (row : List (Field × Entry α)) : Prop where
  fields : row.map Prod.fst = fields
  measured : ∀ entry ∈ row, ∃ t u, measure view size k previous entry.1 t = .ok entry.2 u

theorem Row.nil : Row view size k previous [] [] := ⟨rfl, nofun⟩

theorem Row.cons {fields : List Field} {row : List (Field × Entry α)} {f : Field} {entry : Entry α}
    {t u : Trail α} (measured : measure view size k previous f t = .ok entry u)
    (rest : Row view size k previous fields row) :
    Row view size k previous (f :: fields) ((f, entry) :: row) := by
  refine ⟨by rw [List.map_cons, rest.fields], fun other member => ?_⟩
  rcases List.mem_cons.mp member with rfl | member
  · exact ⟨t, u, measured⟩
  · exact rest.measured other member

theorem recordEach_eq_ok {fields : List Field}
    (done : recordEach view size k fields s = .ok () t) :
    ∃ row, Row view size k s.state.previous fields row ∧ t.state = s.state.grow row := by
  induction fields generalizing s with
  | nil =>
    obtain ⟨-, rfl⟩ := pure_eq_ok.mp done
    exact ⟨[], .nil, rfl⟩
  | cons f rest ih =>
    obtain ⟨_, _, read, done⟩ := bind_eq_ok.mp done
    cases read
    obtain ⟨entry, _, called, done⟩ := bind_eq_ok.mp done
    obtain ⟨trail, measured, rfl⟩ := Stage.onTrail_eq_ok.mp called
    obtain ⟨_, _, appended, done⟩ := bind_eq_ok.mp done
    cases appended
    obtain ⟨row, complete, left⟩ := ih done
    exact ⟨(f, entry) :: row, .cons measured complete, left⟩

theorem recordEach_eq_error {fields : List Field} {e : Fault α}
    (failed : recordEach view size k fields s = .error e t) :
    ∃ done row, done <+: fields ∧ done ≠ fields ∧ Row view size k s.state.previous done row ∧
      t.state = s.state.grow row := by
  induction fields generalizing s with
  | nil => cases failed
  | cons f rest ih =>
    rw [recordEach, Stage.getState_bind] at failed
    rcases bind_eq_error.mp failed with failed | ⟨entry, _, called, failed⟩
    · obtain ⟨trail, -, rfl⟩ := focus_eq_error.mp failed
      exact ⟨[], [], List.nil_prefix, nofun, .nil, rfl⟩
    · obtain ⟨trail, measured, rfl⟩ := Stage.onTrail_eq_ok.mp called
      rcases bind_eq_error.mp failed with impossible | ⟨_, _, appended, failed⟩
      · cases impossible
      cases appended
      obtain ⟨done, row, before, short, complete, left⟩ := ih failed
      refine ⟨f :: done, (f, entry) :: row, List.prefix_cons_inj f |>.mpr before, ?_,
        .cons measured complete, left⟩
      exact fun whole => short (List.cons.inj whole).2

theorem record_eq_ok (done : record view size k s = .ok () t) :
    ∃ row p, Row view size k s.state.previous s.state.fields row ∧ view.point = .ok p ∧
      t.state = { s.state.grow row with previous := some p } := by
  obtain ⟨_, _, read, done⟩ := bind_eq_ok.mp done
  cases read
  obtain ⟨_, u, recorded, done⟩ := bind_eq_ok.mp done
  obtain ⟨row, complete, left⟩ := recordEach_eq_ok recorded
  obtain ⟨_, -, done⟩ := liftM_bind_eq_ok.mp done
  obtain ⟨p, shown, done⟩ := liftM_bind_eq_ok.mp done
  cases done
  refine ⟨row, p, complete, shown, ?_⟩
  rw [← left]

theorem record_eq_error {e : Fault α} (failed : record view size k s = .error e t) :
    ∃ done row, done <+: s.state.fields ∧ Row view size k s.state.previous done row ∧
      t.state = s.state.grow row := by
  rw [record, Stage.getState_bind] at failed
  rcases bind_eq_error.mp failed with failed | ⟨_, u, recorded, failed⟩
  · obtain ⟨done, row, before, -, complete, left⟩ := recordEach_eq_error failed
    exact ⟨done, row, before, complete, left⟩
  -- With all fields recorded, only the iterate to remember can be missing.
  · obtain ⟨row, complete, left⟩ := recordEach_eq_ok recorded
    refine ⟨_, row, List.prefix_rfl, complete, ?_⟩
    rw [← left]
    rcases bind_eq_error.mp failed with failed | ⟨_, v, known, failed⟩
    · rw [(liftM_eq_error.mp failed).2]
    · obtain ⟨-, rfl⟩ := liftM_eq_ok.mp known
      rcases bind_eq_error.mp failed with failed | ⟨_, v, shown, impossible⟩
      · rw [(liftM_eq_error.mp failed).2]
      · cases impossible

theorem Row.length_filter {fields : List Field} {row : List (Field × Entry α)}
    (complete : Row view size k previous fields row) (f : Field) :
    (row.filter (·.1 = f)).length = fields.count f := by
  rw [← complete.fields, List.count, List.countP_map, List.countP_eq_length_filter]
  rfl

theorem start_eq_ok (done : start view s = .ok () t) :
    ∃ p, view.point = .ok p ∧ t.state = ⟨s.state.fields, emptyColumns s.state.fields, some p⟩ := by
  obtain ⟨_, _, emptied, done⟩ := bind_eq_ok.mp done
  cases emptied
  obtain ⟨_, -, done⟩ := liftM_bind_eq_ok.mp done
  obtain ⟨p, shown, done⟩ := liftM_bind_eq_ok.mp done
  cases done
  exact ⟨p, shown, rfl⟩

theorem start_eq_error {e : Fault α} (failed : start view s = .error e t) :
    t.state = { s.state with columns := emptyColumns s.state.fields } := by
  rcases bind_eq_error.mp failed with impossible | ⟨_, _, emptied, failed⟩
  · cases impossible
  cases emptied
  rcases bind_eq_error.mp failed with failed | ⟨_, _, known, failed⟩
  · obtain ⟨-, rfl⟩ := liftM_eq_error.mp failed
    rfl
  obtain ⟨-, rfl⟩ := liftM_eq_ok.mp known
  rcases bind_eq_error.mp failed with failed | ⟨p, _, -, impossible⟩
  · obtain ⟨-, rfl⟩ := liftM_eq_error.mp failed
    rfl
  · cases impossible

end Recorder

/-- The value of a field at iteration `k` of a run, by what was seen at its stages and the lengths
of its steps. Changes and norms are taken from the iterate before. -/
inductive Reported {α : Type} [Scalar α] (views : Nat → View α) (sizes : Nat → Option α) (k : Nat) :
    Field → Entry α → Prop
  | iteration : Reported views sizes k .iteration (.count k)
  | iterate {p : Tensor α} (shown : (views k).iterate = .ok (some p)) :
    Reported views sizes k .iterate (.point p)
  | change {x : α} (measured : changeSize (views (k - 1)) (views k) = .ok x) :
    Reported views sizes k .change (.number x)
  | cost {cost : Tensor α → Attempt α (Trail α) α} {p : Tensor α} {x : α} {s t : Trail α}
    (given : (views k).cost = some cost) (shown : (views k).iterate = .ok (some p))
    (evaluated : cost p s = .ok x t) : Reported views sizes k .cost (.number x)
  | stepsize : Reported views sizes k .stepsize ((sizes k).elim .nothing .number)
  | directionNorm {M : Manifold α} {p v : Option (Tensor α)} {x : α}
    (known : (views k).manifold = .ok M) (shown : (views (k - 1)).iterate = .ok p)
    (direction : (views k).direction = .ok v) (measured : normAt M p v = .ok x) :
    Reported views sizes k .directionNorm (.number x)

section Reported

variable {α : Type} [Scalar α] {views : Nat → View α} {sizes : Nat → Option α} {k : Nat}

theorem View.point_eq_ok {view : View α} {p : Tensor α} (shown : view.point = .ok p) :
    view.iterate = .ok (some p) := by
  obtain ⟨seen, iterate, rest⟩ := Outcome.bind_eq_ok.mp shown
  cases seen with
  | none => cases rest
  | some q =>
    cases rest
    exact iterate

theorem Reported.of_measured {previous : Tensor α} {f : Field} {entry : Entry α} {s t : Trail α}
    (remembered : (views k).point = .ok previous)
    (measured : Recorder.measure (views (k + 1)) (sizes (k + 1)) (k + 1 : Nat) (some previous) f s =
      .ok entry t) :
    Reported views sizes (k + 1) f entry := by
  have before := View.point_eq_ok remembered
  cases f with
  | iteration =>
    cases measured
    exact .iteration
  | iterate =>
    obtain ⟨_, _, _, rest⟩ := bind_eq_ok.mp measured
    obtain ⟨p, shown, rest⟩ := liftM_bind_eq_ok.mp rest
    cases rest
    exact .iterate (View.point_eq_ok shown)
  | change =>
    obtain ⟨M, known, rest⟩ := liftM_bind_eq_ok.mp measured
    obtain ⟨p, shown, rest⟩ := liftM_bind_eq_ok.mp rest
    obtain ⟨x, distance, rest⟩ := liftM_bind_eq_ok.mp rest
    cases rest
    exact .change (changeSize_eq_ok known before shown distance)
  | cost =>
    unfold Recorder.measure at measured
    cases given : (views (k + 1)).cost with
    | none =>
      rw [given] at measured
      cases measured
    | some cost =>
      rw [given] at measured
      obtain ⟨seen, shown, rest⟩ := liftM_bind_eq_ok.mp measured
      cases seen with
      | none => cases rest
      | some p =>
        obtain ⟨x, _, evaluated, rest⟩ := bind_eq_ok.mp rest
        cases rest
        exact .cost given shown evaluated
  | stepsize =>
    cases measured
    exact .stepsize
  | directionNorm =>
    obtain ⟨M, known, rest⟩ := liftM_bind_eq_ok.mp measured
    obtain ⟨v, direction, rest⟩ := liftM_bind_eq_ok.mp rest
    obtain ⟨x, norm, rest⟩ := liftM_bind_eq_ok.mp rest
    cases rest
    exact .directionNorm known before direction norm

end Reported

/-- What a recorder holds after `k` iterations: an entry for each iteration and occurrence of a
field, which is the value reported if the field occurs once. -/
structure Recorded {α : Type} [Scalar α] (fields : List Field) (views : Nat → View α)
    (sizes : Nat → Option α) (k : Nat) (r : Recorder α) : Prop where
  same_fields : r.fields = fields
  previous : ∃ p, (views k).point = .ok p ∧ r.previous = some p
  columns : ∀ f ∈ fields, ∃ entries, r.column? f = some entries ∧
    entries.length = k * fields.count f ∧
    (fields.count f = 1 → ∀ j < k, ∃ entry, entries[j]? = some entry ∧
      Reported views sizes (j + 1) f entry)

namespace Recorded

variable {α : Type} [Scalar α] {fields : List Field} {views : Nat → View α} {sizes : Nat → Option α}
  {k : Nat} {r : Recorder α} {row : List (Field × Entry α)} {p : Tensor α}

theorem start (shown : (views 0).point = .ok p) :
    Recorded fields views sizes 0 ⟨fields, Recorder.emptyColumns fields, some p⟩ where
  same_fields := rfl
  previous := ⟨p, shown, rfl⟩
  columns f member := by
    refine ⟨[], ?_, by simp, fun _ j inside => absurd inside (Nat.not_lt_zero j)⟩
    rw [Recorder.column?, Recorder.lookup_emptyColumns, if_pos member]

theorem next (recorded : Recorded fields views sizes k r)
    (complete : Recorder.Row (views (k + 1)) (sizes (k + 1)) (k + 1 : Nat) r.previous r.fields row)
    (shown : (views (k + 1)).point = .ok p) :
    Recorded fields views sizes (k + 1) { r.grow row with previous := some p } where
  same_fields := (r.fields_grow row).trans recorded.same_fields
  previous := ⟨p, shown, rfl⟩
  columns f member := by
    obtain ⟨q, before, remembered⟩ := recorded.previous
    obtain ⟨entries, column, length, once⟩ := recorded.columns f member
    have added := complete.length_filter f
    rw [recorded.same_fields] at added
    refine ⟨entries ++ (row.filter (·.1 = f)).map Prod.snd, ?_, ?_, fun single j inside => ?_⟩
    · change (r.grow row).column? f = _
      rw [Recorder.column?_grow, column]
      rfl
    · rw [List.length_append, List.length_map, added, length, Nat.add_mul, Nat.one_mul]
    · rw [single, Nat.mul_one] at length
      by_cases earlier : j < k
      · rw [List.getElem?_append_left (by omega)]
        exact once single j earlier
      · obtain rfl : j = k := by omega
        -- The field occurs once, so that the row has one entry for it.
        rw [single] at added
        obtain ⟨entry, only⟩ := List.length_eq_one_iff.mp added
        have inside : entry ∈ row.filter (·.1 = f) := by
          rw [only]
          exact List.mem_singleton_self entry
        obtain ⟨part, named⟩ := List.mem_filter.mp inside
        obtain ⟨t, u, measured⟩ := complete.measured entry part
        rw [remembered, of_decide_eq_true named] at measured
        refine ⟨entry.2, ?_, .of_measured before measured⟩
        rw [only, List.getElem?_append_right (by omega), ← length]
        simp

end Recorded

end ManifoldOpt
