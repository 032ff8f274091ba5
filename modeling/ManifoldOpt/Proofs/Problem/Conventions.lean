import ManifoldOpt.Proofs.Parting
import ManifoldOpt.Subgradient

set_option autoImplicit false

namespace ManifoldOpt

open Attempt

variable {α : Type} {f : Outcome α (Tensor α) → Callback α} {g : Callback α} {name : String}
  {calls : List Nat → Nat} {m : Nat}

def Procedure.Gives : Procedure α → Prop
  | .allocating g => ∀ p s t, ¬ g p s = .ok none t
  | .inPlace _ _ => True

/-- Whatever the buffer that it is to fill contains, `f` gives the array that `g` allocates. -/
structure Callback.FilledBy (g : Callback α) (f : Outcome α (Tensor α) → Callback α) : Prop where
  gives : (Procedure.allocating g).Gives
  same : ∀ buffer p, f (.ok buffer) p = g p

/-- Whatever the buffers contain, `f` gives the arrays that `g` allocates, but nothing at the `m`-th
call. -/
structure Callback.ForgottenAt (calls : List Nat → Nat) (m : Nat) (g : Callback α)
    (f : Outcome α (Tensor α) → Callback α) : Prop where
  gives : (Procedure.allocating g).Gives
  counted : ∀ p s, calls (left (g p s)).tally = calls s.tally + 1
  same : ∀ buffer p s, calls s.tally + 1 ≠ m → f (.ok buffer) p s = g p s
  forgotten : ∀ buffer p s, calls s.tally + 1 = m →
    ∃ t, f (.ok buffer) p s = .ok none t ∧ calls t.tally = m

def Parting.never : Parting α where
  going _ := True
  apart _ _ := False
  fault := .unfinished
  going_emit _ _ _ := trivial
  apart_emit _ _ _ before := before

/-- The first computation breaks off with the `m`-th call, which the second one makes as well. -/
def Parting.atCall (calls : List Nat → Nat) (m : Nat) (name : String) : Parting α where
  going s := calls s.tally < m
  apart s t := calls s.tally = m ∧ m ≤ calls t.tally
  fault := .forgottenBuffer name
  going_emit _ _ before := before
  apart_emit _ _ _ before := before

theorem Parting.never_keeps {β : Type} (n : Attempt α (Trail α) β) :
    Keeps (never : Parting α).going n :=
  .of_left fun _ _ => trivial

theorem Parting.atCall_keeps {β : Type} {n : Attempt α (Trail α) β}
    (uncounted : ∀ count, Keeps (fun t => calls t.tally = count) n) :
    Keeps (atCall calls m name : Parting α).going n :=
  .of_left fun s before => by
    have same : calls (left (n s)).tally = calls s.tally := (uncounted _).left rfl
    exact Nat.lt_of_le_of_lt (Nat.le_of_eq same) before

theorem Procedure.evaluate_of_none {buffer p : Tensor α} {s t : Trail α}
    (forgotten : f (.ok buffer) p s = .ok none t) :
    (Procedure.inPlace name f).evaluate buffer p s = .error (.forgottenBuffer name) t := by
  change (f (.ok buffer) p >>= _) s = _
  rw [bind_of_ok forgotten]
  rfl

theorem Procedure.evaluate_of_same {buffer p : Tensor α} {s : Trail α}
    (gives : ∀ t, ¬ g p s = .ok none t) (same : f (.ok buffer) p s = g p s) :
    (Procedure.inPlace name f).evaluate buffer p s =
      (Procedure.allocating g).evaluate buffer p s := by
  change (f (.ok buffer) p >>= _) s = (g p >>= _) s
  cases given : g p s with
  | error e t => rw [bind_of_error given, bind_of_error (same.trans given)]
  | ok v t =>
    rw [bind_of_ok given, bind_of_ok (same.trans given)]
    cases v with
    | none => exact absurd given (gives t)
    | some v => rfl

theorem Procedure.left_evaluate {buffer p : Tensor α} {s : Trail α} :
    left ((Procedure.allocating g).evaluate buffer p s) = left (g p s) := by
  change left ((g p >>= _) s) = _
  cases given : g p s with
  | error e t =>
    rw [bind_of_error given]
    rfl
  | ok v t =>
    rw [bind_of_ok given]
    cases v with
    | none => rfl
    | some v => rfl

theorem Callback.FilledBy.evaluate (filled : g.FilledBy f) (buffer p : Tensor α) :
    (Procedure.inPlace name f).evaluate buffer p = (Procedure.allocating g).evaluate buffer p :=
  funext fun s => Procedure.evaluate_of_same (filled.gives p s) (congrFun (filled.same buffer p) s)

theorem Callback.FilledBy.splits (filled : g.FilledBy f) (buffer p : Tensor α) :
    Parting.never.Splits Eq ((Procedure.inPlace name f).evaluate buffer p)
      ((Procedure.allocating g).evaluate buffer p) := by
  rw [filled.evaluate]
  exact Parting.splits_same (Parting.never_keeps _)

theorem Callback.ForgottenAt.splits (forgotten : g.ForgottenAt calls m f) (buffer p : Tensor α) :
    (Parting.atCall calls m name).Splits Eq ((Procedure.inPlace name f).evaluate buffer p)
      ((Procedure.allocating g).evaluate buffer p) := by
  rintro s _ ⟨rfl, going⟩
  by_cases last : calls s.tally + 1 = m
  · obtain ⟨t, none, counted⟩ := forgotten.forgotten buffer p s last
    rw [Procedure.evaluate_of_none none]
    refine .broken ⟨counted, Nat.le_of_eq ?_⟩
    rw [Procedure.left_evaluate, forgotten.counted, last]
  · rw [Procedure.evaluate_of_same (forgotten.gives p s) (forgotten.same buffer p s last)]
    have counted : calls (left ((Procedure.allocating g).evaluate buffer p s)).tally < m := by
      have before : calls s.tally < m := going
      rw [Procedure.left_evaluate, forgotten.counted]
      omega
    generalize (Procedure.allocating g).evaluate buffer p s = x at counted ⊢
    cases x with
    | ok v t => exact .agree (.ok rfl ⟨rfl, counted⟩)
    | error e t => exact .agree (.error ⟨rfl, counted⟩)

theorem Callback.ForgottenAt.evaluate_counted (forgotten : g.ForgottenAt calls m f)
    (buffer p : Tensor α) (s : Trail α) :
    calls (left ((Procedure.inPlace name f).evaluate buffer p s)).tally = calls s.tally + 1 := by
  by_cases last : calls s.tally + 1 = m
  · obtain ⟨t, none, counted⟩ := forgotten.forgotten buffer p s last
    rw [Procedure.evaluate_of_none none, last]
    exact counted
  · rw [Procedure.evaluate_of_same (forgotten.gives p s) (forgotten.same buffer p s last),
      Procedure.left_evaluate, forgotten.counted]

end ManifoldOpt
