import Mathlib.Data.List.Dedup
import Mathlib.Data.List.DropRight
import ManifoldOpt.Cache

/-!
What a bounded cache holds. Without a bound the entries would be all keys that were used, by last use,
each with the value last handed out for it; a bounded cache holds the end of that list. An entry that
has been dropped does not matter for what is dropped later, so that the bound may be taken at the end.
-/

set_option autoImplicit false

namespace ManifoldOpt

theorem List.rtake_append_of_le {β : Type} {l r : List β} {n : ℕ} (enough : n ≤ r.length) :
    (l ++ r).rtake n = r.rtake n := by
  have skipped : (l ++ r).length - n = l.length + (r.length - n) := by
    rw [List.length_append, Nat.add_sub_assoc enough]
  rw [List.rtake, List.rtake, skipped, List.drop_length_add_append]

theorem List.rtake_of_length_le {β : Type} {l : List β} {n : ℕ} (short : l.length ≤ n) :
    l.rtake n = l := by
  rw [List.rtake, Nat.sub_eq_zero_of_le short, List.drop_zero]

theorem List.length_rtake_le {β : Type} (l : List β) (n : ℕ) : (l.rtake n).length ≤ n := by
  rw [List.rtake, List.length_drop]
  omega

theorem List.dedup_concat {β : Type} [DecidableEq β] (l : List β) (a : β) :
    (l ++ [a]).dedup = l.dedup.filter (· ≠ a) ++ [a] := by
  induction l with
  | nil => rfl
  | cons b l ih =>
    by_cases again : b ∈ l
    · rw [List.cons_append, List.dedup_cons_of_mem (List.mem_append_left _ again),
        List.dedup_cons_of_mem again, ih]
    · by_cases same : b = a
      · subst same
        rw [List.cons_append, List.dedup_cons_of_mem (by simp), List.dedup_cons_of_notMem again, ih]
        simp
      · rw [List.cons_append, List.dedup_cons_of_notMem (by simp [again, same]),
          List.dedup_cons_of_notMem again, ih]
        simp [same]

namespace Cache

variable {κ ν : Type} [DecidableEq κ] {key : κ} {value new : ν} {entries : List (κ × ν)}

theorem keys_touch : (touch key value entries).map Prod.fst =
    (entries.map Prod.fst).filter (· ≠ key) ++ [key] := by
  rw [touch, List.map_append, List.filter_map]
  rfl

theorem length_touch :
    (touch key value entries).length = ((entries.map Prod.fst).filter (· ≠ key)).length + 1 := by
  rw [← List.length_map Prod.fst, keys_touch, List.length_append, List.length_singleton]

theorem touch_of_new (unheld : key ∉ entries.map Prod.fst) :
    touch key value entries = entries ++ [(key, value)] := by
  have others : entries.filter (fun e => e.1 ≠ key) = entries := by
    refine List.filter_eq_self.mpr fun e member => decide_eq_true fun same => unheld ?_
    exact List.mem_map.mpr ⟨e, member, same⟩
  rw [touch, others]

theorem length_touch_le (held : key ∈ entries.map Prod.fst) :
    (touch key value entries).length ≤ entries.length := by
  rw [length_touch, ← List.length_map Prod.fst]
  exact List.length_filter_lt_length_iff_exists.mpr ⟨key, held, by simp⟩

theorem le_length_touch (distinct : (entries.map Prod.fst).Nodup) :
    entries.length ≤ (touch key value entries).length := by
  have erased : (entries.map Prod.fst).filter (· ≠ key) = (entries.map Prod.fst).erase key := by
    rw [distinct.erase_eq_filter]
    refine List.filter_congr fun a _ => ?_
    rw [decide_not]
    rfl
  have less := List.le_length_erase (a := key) (l := entries.map Prod.fst)
  rw [List.length_map] at less
  rw [length_touch, erased]
  omega

theorem rtake_touch_rtake (distinct : (entries.map Prod.fst).Nodup) (n : ℕ) :
    (touch key value (entries.rtake n)).rtake n = (touch key value entries).rtake n := by
  by_cases short : entries.length ≤ n
  · rw [List.rtake_of_length_le short]
  · have parts := List.take_append_drop (entries.length - n) entries
    change _ ++ entries.rtake n = entries at parts
    have rest : ((entries.rtake n).map Prod.fst).Nodup := by
      rw [← parts, List.map_append] at distinct
      exact distinct.of_append_right
    have full : (entries.rtake n).length = n := by
      rw [List.rtake, List.length_drop]
      omega
    have enough : n ≤ (touch key value (entries.rtake n)).length :=
      full.symm.trans_le (le_length_touch rest)
    rw [← List.rtake_append_of_le (l := (entries.take (entries.length - n)).filter
      (fun e => e.1 ≠ key)) enough, touch, ← List.append_assoc, ← List.filter_append, parts]
    rfl

omit [DecidableEq κ] in
theorem trim_eq_rtake {capacity : ℤ} (fits : entries.length ≤ capacity.toNat + 1) :
    trim capacity entries = entries.rtake capacity.toNat := by
  unfold trim
  split
  next exceeded =>
    cases entries with
    | nil => rw [List.rtake_nil, List.tail_nil]
    | cons e rest =>
      have skipped : (e :: rest).length - capacity.toNat = 1 := by
        rw [List.length_cons] at *
        omega
      rw [List.rtake, skipped, List.drop_one]
  next within =>
    rw [List.rtake_of_length_le]
    omega

variable {c : Cache κ ν}

theorem find?_eq_none : c.find? key = none ↔ key ∉ c.keys := by
  simp only [find?, keys, List.lookup_eq_none_iff, List.mem_map, bne_iff_ne, not_exists, not_and]
  exact ⟨fun h e member same => h e member same.symm, fun h e member same => h e member same.symm⟩

theorem mem_of_find? (found : c.find? key = some value) : (key, value) ∈ c.entries := by
  obtain ⟨before, later, parts, -⟩ := List.lookup_eq_some_iff.mp found
  rw [parts]
  simp

theorem exists_find? (held : key ∈ c.keys) : ∃ value, c.find? key = some value :=
  Option.ne_none_iff_exists'.mp fun none => find?_eq_none.mp none held

theorem fetch_of_held (found : c.find? key = some value) :
    c.fetch key new = (value, { c with entries := touch key value c.entries }) := by
  simp only [fetch, found]

theorem fetch_of_unheld (unheld : key ∉ c.keys) :
    c.fetch key new = (new, { c with entries := trim c.capacity (c.entries ++ [(key, new)]) }) := by
  simp only [fetch, find?_eq_none.mpr unheld]

section Obtain

variable {ε : Type} {make : Except ε ν}

theorem obtain_of_held (found : c.find? key = some value) :
    c.obtain key make = .ok (c.fetch key value) := by
  rw [obtain, found]
  rfl

theorem obtain_of_unheld (unheld : key ∉ c.keys) :
    c.obtain key make = make.map (c.fetch key) := by
  rw [obtain, find?_eq_none.mpr unheld]
  cases make <;> rfl

end Obtain

theorem entries_of_fetch {next : Cache κ ν} (fits : c.entries.length ≤ c.capacity.toNat)
    (handed : c.fetch key new = (value, next)) :
    next = ⟨c.capacity, (touch key value c.entries).rtake c.capacity.toNat⟩ := by
  by_cases held : key ∈ c.keys
  · obtain ⟨old, found⟩ := exists_find? held
    rw [fetch_of_held found] at handed
    cases handed
    rw [List.rtake_of_length_le ((length_touch_le held).trans fits)]
  · rw [fetch_of_unheld held] at handed
    cases handed
    rw [touch_of_new held, trim_eq_rtake]
    rw [List.length_append, List.length_singleton]
    omega

theorem mem_of_fetch {next : Cache κ ν} {entry : κ × ν}
    (handed : c.fetch key new = (value, next)) (member : entry ∈ next.entries) :
    entry ∈ c.entries ∨ entry = (key, value) := by
  by_cases held : key ∈ c.keys
  · obtain ⟨old, found⟩ := exists_find? held
    rw [fetch_of_held found] at handed
    cases handed
    rw [touch, List.mem_append, List.mem_filter, List.mem_singleton] at member
    exact member.imp_left And.left
  · rw [fetch_of_unheld held] at handed
    cases handed
    have untrimmed : entry ∈ c.entries ++ [(key, value)] := by
      unfold trim at member
      split at member
      next => exact List.mem_of_mem_tail member
      next => exact member
    rwa [List.mem_append, List.mem_singleton] at untrimmed

/-- The keys used, by last use, each with the value last handed out for it. -/
def replay (uses : List (κ × ν)) : List (κ × ν) :=
  uses.foldl (fun entries use => touch use.1 use.2 entries) []

variable {uses : List (κ × ν)}

theorem replay_concat : replay (uses ++ [(key, value)]) = touch key value (replay uses) := by
  rw [replay, List.foldl_append]
  rfl

theorem keys_replay (uses : List (κ × ν)) :
    (replay uses).map Prod.fst = (uses.map Prod.fst).dedup := by
  induction uses using List.reverseRecOn with
  | nil => rfl
  | append_singleton uses use ih =>
    rw [replay_concat, keys_touch, ih, List.map_append]
    exact (List.dedup_concat _ _).symm

theorem lookup_of_mem_replay (member : (key, value) ∈ replay uses) :
    uses.reverse.lookup key = some value := by
  induction uses using List.reverseRecOn with
  | nil => cases member
  | append_singleton uses use ih =>
    rw [replay_concat, touch, List.mem_append, List.mem_filter, List.mem_singleton] at member
    rw [List.reverse_append, List.reverse_singleton, List.singleton_append, List.lookup_cons]
    obtain ⟨earlier, other⟩ | last := member
    · rw [beq_eq_false_iff_ne.mpr (of_decide_eq_true other)]
      exact ih earlier
    · cases last
      simp

end Cache

end ManifoldOpt
