import ManifoldOpt.Proofs.Solver.Ending
import ManifoldOpt.Proofs.Stopping.Run

set_option autoImplicit false

namespace ManifoldOpt

open Attempt

variable {α S : Type} [Scalar α]

theorem Number.scalarAtMost_mono {x : α} {m n : Int} (le : m ≤ n)
    (reached : scalarAtMost x m = true) : scalarAtMost x n = true := by
  unfold scalarAtMost at reached ⊢
  by_cases finite : Scalar.isFinite x = true
  · simp only [finite, if_true, decide_eq_true_eq] at reached ⊢
    exact Int.le_trans reached le
  · rw [if_neg finite] at reached ⊢
    exact reached

theorem Number.le_mono {x : Number α} {m n : Int} (le : m ≤ n) (reached : x.le (.int m) = true) :
    x.le (.int n) = true := by
  cases x with
  | bool b => exact decide_eq_true (Int.le_trans (of_decide_eq_true reached) le)
  | int limit => exact decide_eq_true (Int.le_trans (of_decide_eq_true reached) le)
  | real x => exact scalarAtMost_mono le reached

theorem Number.le_of_whole {x : Number α} {m : Int} (whole : x.int? = some m) (n : Int) :
    x.le (.int n) = decide (m ≤ n) := by
  unfold Number.le
  rw [whole]
  rfl

namespace Criterion

/-- Criteria that make a run stop after at most `N` iterations. -/
inductive BoundedBy (N : Nat) : Criterion α → Prop
  | afterIteration {cell : Nat} {limit : Number α} (le : limit.le (.int N) = true) :
    BoundedBy N (afterIteration cell limit)
  | any {cell : Nat} {parts : List (Criterion α)} {c : Criterion α} (part : c ∈ parts)
    (bounded : BoundedBy N c) : BoundedBy N (any cell parts)
  | all {cell : Nat} {parts : List (Criterion α)} (each : ∀ c ∈ parts, BoundedBy N c) :
    BoundedBy N (all cell parts)

def Fires (view : View α) (k : Int) (c : Criterion α) : Prop :=
  ∀ s answer t, check view k c s = .ok answer t → answer = true

section Parts

variable {view : View α} {k : Int} {parts : List (Criterion α)} {fired : List Bool}
  {s t : Stage α (Memory α)}

theorem checkEach_any_fires {c : Criterion α} (part : c ∈ parts) (fires : Fires view k c)
    (done : checkEach view k parts s = .ok fired t) : fired.any id = true := by
  induction parts generalizing s fired with
  | nil => cases part
  | cons d rest ih =>
    obtain ⟨first, u, asked, done⟩ := bind_eq_ok.mp done
    obtain ⟨others, v, asked', done⟩ := bind_eq_ok.mp done
    obtain ⟨rfl, rfl⟩ := pure_eq_ok.mp done
    rcases List.mem_cons.mp part with rfl | part
    · simp [fires s first u asked]
    · simp [ih part asked']

theorem checkEach_all_fires (fires : ∀ c ∈ parts, Fires view k c)
    (done : checkEach view k parts s = .ok fired t) : fired.all id = true := by
  induction parts generalizing s fired with
  | nil =>
    obtain ⟨rfl, -⟩ := pure_eq_ok.mp done
    rfl
  | cons d rest ih =>
    obtain ⟨first, u, asked, done⟩ := bind_eq_ok.mp done
    obtain ⟨others, v, asked', done⟩ := bind_eq_ok.mp done
    obtain ⟨rfl, rfl⟩ := pure_eq_ok.mp done
    have first_fires := fires d List.mem_cons_self s first u asked
    have others_fire := ih (fun c member => fires c (List.mem_cons_of_mem d member)) asked'
    simp [first_fires, others_fire]

end Parts

theorem BoundedBy.fires {N k : Nat} {c : Criterion α} (bounded : BoundedBy N c) (reached : N ≤ k)
    (view : View α) : Fires view k c := by
  induction bounded with
  | afterIteration le =>
    intro s answer t asked
    obtain ⟨rfl, -⟩ := checkBudget_eq_ok asked
    exact Number.le_mono (Int.ofNat_le.mpr reached) le
  | @any cell parts c part bounded ih =>
    intro s answer t asked
    rw [check] at asked
    obtain ⟨fired, u, each, rfl, -⟩ := combine_eq_ok (c := .any cell parts) asked
    exact checkEach_any_fires part ih each
  | @all cell parts each ih =>
    intro s answer t asked
    rw [check] at asked
    obtain ⟨fired, u, each, rfl, -⟩ := combine_eq_ok (c := .all cell parts) asked
    exact checkEach_all_fires ih each

end Criterion

namespace Solver

variable {solver : Solver α S} {recorder : Option (Recorder α)} {first : Stage α (Run α S)}
  {n N : Nat} {stages : Nat → Stage α (Run α S)}

section Course

variable (lawful : solver.Lawful) (course : Course solver recorder first n stages)
  (bounded : first.state.stop.root.BoundedBy N)

include lawful course bounded

theorem Course.lt_of_going {t : Stage α (Run α S)}
    (going : solver.shouldStop n (stages n) = .ok false t) : n < N := by
  by_contra reached
  obtain ⟨u, checked, -⟩ := shouldStop_eq_ok going
  rw [course.root lawful (Nat.le_refl n)] at checked
  exact Bool.false_ne_true (bounded.fires (Nat.le_of_not_lt reached) _ _ _ _ checked)

theorem Course.le_budget : n ≤ N := by
  cases n with
  | zero => exact Nat.zero_le N
  | succ n =>
    obtain ⟨t, going, -⟩ := course.continued n (Nat.lt_succ_self n)
    exact (course.shorten (Nat.le_succ n)).lt_of_going lawful bounded going

theorem Ending.begun_le_budget {allowance begun completed recorded : Nat}
    {result : EStateM.Result (Fault α) (Stage α (Run α S)) Unit}
    (ending : Ending solver allowance n (stages n) begun completed recorded result) : begun ≤ N := by
  cases ending with
  | exhausted spent => exact course.le_budget lawful bounded
  | stopped unspent fired => exact course.le_budget lawful bounded
  | unanswered unspent failed => exact course.le_budget lawful bounded
  | interrupted unspent going failed => exact course.lt_of_going lawful bounded going
  | unrecorded unspent going stepped failed => exact course.lt_of_going lawful bounded going

end Course

section Ends

variable (lawful : solver.Lawful) (bounded : first.state.stop.root.BoundedBy N)
  {allowance begun completed recorded : Nat}
  {result : EStateM.Result (Fault α) (Stage α (Run α S)) Unit}
  (ends : Ends solver allowance recorder first begun completed recorded result)

include lawful bounded ends

theorem Ends.begun_le_budget : begun ≤ N := by
  cases ends with
  | unprepared failed => exact Nat.zero_le N
  | after course ending => exact ending.begun_le_budget lawful course bounded

theorem Ends.eq_budget {cell : Nat} {limit : Number α}
    (root : first.state.stop.root = .afterIteration cell limit) (count : limit.int? = some N)
    {last : Stage α (Run α S)} (ended : result = .ok () last) :
    begun = N ∧ completed = N := by
  cases ends with
  | unprepared failed => cases ended
  | @after n _ _ _ stages _ course ending =>
    have inside := course.le_budget lawful bounded
    cases ending with
    | exhausted spent => cases ended
    | unanswered unspent failed => cases ended
    | interrupted unspent going failed => cases ended
    | unrecorded unspent going stepped failed => cases ended
    | stopped unspent fired =>
      obtain ⟨u, checked, -⟩ := shouldStop_eq_ok fired
      rw [course.root lawful (Nat.le_refl _), root] at checked
      obtain ⟨reached, -⟩ := Criterion.checkBudget_eq_ok checked
      have passed := of_decide_eq_true (reached.trans (Number.le_of_whole count _)).symm
      omega

end Ends

theorem solve_of_allowed (lawful : solver.Lawful) (bounded : first.state.stop.root.BoundedBy N)
    {allowance : Nat} (enough : N < allowance) :
    solver.solve allowance recorder first = solver.solve (N + 1) recorder first := by
  obtain ⟨begun, completed, recorded, ends⟩ := solve_ends solver recorder first (N + 1)
  generalize result_eq : solver.solve (N + 1) recorder first = result at ends
  cases ends with
  | unprepared failed =>
    rw [solve]
    exact bind_of_error failed
  | @after n _ _ _ stages _ course ending =>
    have inside := course.le_budget lawful bounded
    obtain ⟨more, rfl⟩ := Nat.exists_eq_add_of_lt (Nat.lt_of_le_of_lt inside enough)
    rw [show n + more + 1 = more + 1 + n by omega, course.solve_eq]
    exact ending.loop_eq (by omega) more

end Solver

end ManifoldOpt
