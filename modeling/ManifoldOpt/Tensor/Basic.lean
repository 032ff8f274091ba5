import ManifoldOpt.Scalar

/-!
Arrays of any rank. A tensor is its shape and its entries in row-major order, the last axis running
fastest; the number of entries is the product of the axis lengths.
-/

set_option autoImplicit false

namespace ManifoldOpt

abbrev Shape := List Nat

namespace Shape

def size : Shape → Nat
  | [] => 1
  | n :: rest => n * size rest

@[simp] theorem size_nil : size [] = 1 := rfl

@[simp] theorem size_cons (n : Nat) (rest : Shape) : size (n :: rest) = n * size rest := rfl

theorem size_singleton (n : Nat) : size [n] = n := by simp

def text (s : Shape) : String :=
  match s with
  | [one] => "(" ++ toString one ++ ",)"
  | many => "(" ++ ", ".intercalate (many.map toString) ++ ")"

end Shape

structure Tensor (α : Type) where
  shape : Shape
  entries : List α
  size_eq : entries.length = shape.size

namespace Tensor

variable {α β : Type}

@[ext] theorem ext {x y : Tensor α} (shape : x.shape = y.shape) (entries : x.entries = y.entries) :
    x = y := by
  cases x; cases y; simp_all

def scalar (a : α) : Tensor α := ⟨[], [a], rfl⟩

def vector (entries : List α) : Tensor α := ⟨[entries.length], entries, by simp⟩

def fill (shape : Shape) (a : α) : Tensor α := ⟨shape, List.replicate shape.size a, by simp⟩

def tabulate (shape : Shape) (f : Nat → α) : Tensor α :=
  ⟨shape, (List.range shape.size).map f, by simp⟩

def map (f : α → β) (x : Tensor α) : Tensor β := ⟨x.shape, x.entries.map f, by simp [x.size_eq]⟩

def ravel (x : Tensor α) : Tensor α := ⟨[x.entries.length], x.entries, by simp⟩

def rank (x : Tensor α) : Nat := x.shape.length

def item? (x : Tensor α) : Option α := if x.shape = [] then x.entries.head? else none

def reshape? (x : Tensor α) (shape : Shape) : Option (Tensor α) :=
  if h : x.shape.size = shape.size then some ⟨shape, x.entries, x.size_eq.trans h⟩ else none

@[simp] theorem shape_scalar (a : α) : (scalar a).shape = [] := rfl

@[simp] theorem entries_scalar (a : α) : (scalar a).entries = [a] := rfl

@[simp] theorem shape_map (f : α → β) (x : Tensor α) : (x.map f).shape = x.shape := rfl

@[simp] theorem entries_map (f : α → β) (x : Tensor α) : (x.map f).entries = x.entries.map f := rfl

@[simp] theorem item?_scalar (a : α) : (scalar a).item? = some a := rfl

variable [Scalar α]

def zeros (shape : Shape) : Tensor α := fill shape 0

def zerosLike (x : Tensor α) : Tensor α := zeros x.shape

def total (x : Tensor α) : α := x.entries.foldl Scalar.sum 0

def scale (c : α) (x : Tensor α) : Tensor α := x.map (Scalar.product c)

def neg (x : Tensor α) : Tensor α := x.map (- ·)

def allFinite (x : Tensor α) : Bool := x.entries.all Scalar.isFinite

def length (x : Tensor α) : α := Scalar.sqrt ((x.map Scalar.square).total)

def identity (n : Nat) : Tensor α :=
  tabulate [n, n] fun i => if i / n = i % n then 1 else 0

end Tensor

end ManifoldOpt
