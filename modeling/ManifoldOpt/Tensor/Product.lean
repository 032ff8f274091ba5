import ManifoldOpt.Tensor.Broadcast

set_option autoImplicit false

namespace ManifoldOpt

variable {α : Type}

def blocks (width : Nat) : Nat → List α → List (List α)
  | 0, _ => []
  | count + 1, entries => entries.take width :: blocks width count (entries.drop width)

@[simp] theorem length_blocks (width count : Nat) (entries : List α) :
    (blocks width count entries).length = count := by
  induction count generalizing entries with
  | zero => rfl
  | succ count ih => simp [blocks, ih]

theorem length_of_mem_blocks {width count : Nat} {entries block : List α}
    (enough : count * width ≤ entries.length) (mem : block ∈ blocks width count entries) :
    block.length = width := by
  induction count generalizing entries with
  | zero => simp [blocks] at mem
  | succ count ih =>
    rw [Nat.succ_mul] at enough
    rw [blocks, List.mem_cons] at mem
    rcases mem with first | later
    · subst first
      rw [List.length_take]
      omega
    · exact ih (by rw [List.length_drop]; omega) later

variable [Scalar α]

def sumProducts (x y : List α) : α := (List.zipWith Scalar.product x y).foldl Scalar.sum 0

namespace Tensor

def slices (x : Tensor α) : Outcome α (List (Tensor α)) :=
  match h : x.shape with
  | [] => .error .missingAxis
  | count :: rest =>
    .ok ((blocks (Shape.size rest) count x.entries).attach.map fun block =>
      ⟨rest, block.1, length_of_mem_blocks (by rw [x.size_eq, h]; exact Nat.le_refl _) block.2⟩)

def leading (count : Nat) (x : Tensor α) : Tensor α :=
  match x.shape with
  | [] => x
  | m :: rest => tabulate (min count m :: rest) fun i => x.entries.getD i 0

def setLast (a : α) (x : Tensor α) : Outcome α (Tensor α) :=
  match x.shape with
  | [] => .error .missingAxis
  | 0 :: _ => .error .missingAxis
  | count :: rest =>
    .ok (tabulate x.shape fun i =>
      if (count - 1) * Shape.size rest ≤ i then a else x.entries.getD i 0)

def apply (a v : Tensor α) : Outcome α (Tensor α) :=
  match a.shape.reverse, v.shape with
  | [], _ => .error .missingArray
  | k :: rest, [l] =>
    if k = l then
      .ok (tabulate rest.reverse fun i =>
        sumProducts ((a.entries.drop (i * k)).take k) v.entries)
    else .error .shapeClash
  | _, _ => .error .shapeClash

/-- The contraction of a left factor with last axis `k` and a right factor of shape
`outer ++ [k, n]`. -/
def contract (x y : Tensor α) (left outer : Shape) (k n : Nat) : Tensor α :=
  tabulate (left ++ outer ++ [n]) fun i =>
    let column := i % n
    let block := i / n % outer.size
    let row := i / n / outer.size
    let start := block * (k * n) + column
    sumProducts ((x.entries.drop (row * k)).take k)
      ((List.range k).map fun l => y.entries.getD (start + l * n) 0)

def dot (x y : Tensor α) : Outcome α (Tensor α) :=
  match x.shape.reverse, y.shape.reverse with
  | [], _ => mul x y
  | _, [] => mul x y
  | [k], [l] => if k = l then .ok (scalar (sumProducts x.entries y.entries)) else .error .shapeClash
  | _, [_] => apply x y
  | k :: left, n :: l :: outer =>
    if k = l then .ok (contract x y left.reverse outer.reverse k n) else .error .shapeClash

def outer (x y : Tensor α) : Tensor α :=
  ⟨[x.entries.length, y.entries.length],
    x.entries.flatMap fun a => y.entries.map (Scalar.product a),
    by simp [List.length_flatMap, List.map_const']⟩

def sumLast (x : Tensor α) : Outcome α (Tensor α) :=
  match x.shape.reverse with
  | [] => .error .missingArray
  | k :: rest =>
    .ok (tabulate (rest.reverse ++ [1]) fun i =>
      ((x.entries.drop (i * k)).take k).foldl Scalar.sum 0)

/-- The sum of the arrays along the leading axis of `basis`, weighted by a vector; for more axes of
coefficients, one such sum for each position of the others. -/
def combine (coefficients basis : Tensor α) : Outcome α (Tensor α) :=
  match coefficients.shape.reverse, basis.shape with
  | k :: left, l :: rest =>
    if k = l then
      let width := Shape.size rest
      .ok (tabulate (left.reverse ++ rest) fun i =>
        sumProducts ((coefficients.entries.drop (i / width * k)).take k)
          ((List.range k).map fun row => basis.entries.getD (row * width + i % width) 0))
    else .error .shapeClash
  | _, _ => .error .shapeClash

def coordinates (basis v : Tensor α) : Outcome α (Tensor α) :=
  match basis.shape with
  | [] => .error .missingAxis
  | 0 :: _ => .error .divisionByZero
  | count :: rest =>
    if Shape.size rest = v.entries.length then
      .ok (tabulate [count] fun i =>
        sumProducts ((basis.entries.drop (i * Shape.size rest)).take (Shape.size rest)) v.entries)
    else .error .shapeClash

def columns (vectors : List (Tensor α)) : Outcome α (Tensor α) :=
  match vectors with
  | [] => .error .missingArray
  | first :: rest =>
    match first.shape with
    | [m] =>
      if rest.all (·.shape = [m]) then
        .ok (tabulate [m, vectors.length] fun i =>
          ((vectors.getD (i % vectors.length) first).entries.getD (i / vectors.length) 0))
      else .error .shapeClash
    | _ => .error .shapeClash

def holds (test : α → Bool) (x : Tensor α) : Outcome α Bool :=
  match x.entries with
  | [a] => .ok (test a)
  | _ => .error .ambiguous

def squareRows? (a : Tensor α) : Option (List (List α)) :=
  match a.shape with
  | [m, n] => if m = n then some (blocks n m a.entries) else none
  | _ => none

end Tensor

end ManifoldOpt
