import ManifoldOpt.Parameter
import ManifoldOpt.Tensor.Product

/-!
The condition number of a matrix in the Euclidean norm. Rotating pairs of columns until all are
orthogonal leaves the singular values as the lengths of the columns.
-/

set_option autoImplicit false

namespace ManifoldOpt

variable {α : Type} [Scalar α]

namespace Jacobi

def rotate (a b : List α) : List α × List α :=
  let aa := sumProducts a a
  let bb := sumProducts b b
  let ab := sumProducts a b
  if Scalar.abs ab ≤ 1e-17 * Scalar.sqrt (aa * bb) then (a, b)
  else
    let slope := (bb - aa) / (ab + ab)
    let root := Scalar.abs slope + Scalar.sqrt (1 + slope * slope)
    let tangent := if slope < 0 then -(1 / root) else 1 / root
    let c := 1 / Scalar.sqrt (1 + tangent * tangent)
    let s := c * tangent
    (List.zipWith (fun x y => c * x - s * y) a b, List.zipWith (fun x y => s * x + c * y) a b)

def rotateWith (a : List α) : List (List α) → List α × List (List α)
  | [] => (a, [])
  | b :: rest =>
    let (a', b') := rotate a b
    let (last, others) := rotateWith a' rest
    (last, b' :: others)

def sweep : Nat → List (List α) → List (List α)
  | count + 1, a :: rest =>
    let (a', others) := rotateWith a rest
    a' :: sweep count others
  | _, columns => columns

def orthogonalize : Nat → List (List α) → List (List α)
  | 0, columns => columns
  | rounds + 1, columns => orthogonalize rounds (sweep columns.length columns)

end Jacobi

def largest (values : List α) : α := values.foldl Scalar.maximum 0

def largestSize (values : List α) : α := largest (values.map Scalar.abs)

/-- The length of a column, in units of its largest entry so that no square leaves the scalars. -/
def columnLength (column : List α) : α :=
  let size := largestSize column
  if Scalar.isZero size then 0
  else
    let relative := column.map (· / size)
    size * Scalar.sqrt (sumProducts relative relative)

def relativeSingularValues (rows : List (List α)) : List α :=
  let size := largest (rows.map largestSize)
  (Jacobi.orthogonalize 40 (rows.map fun row => row.map (· / size))).map columnLength

def conditionNumber (rows : List (List α)) : α :=
  let values := relativeSingularValues rows
  let top := largest values
  top / values.foldl (fun low x => if low ≤ x then low else x) top

/-- The matrix passes unless its condition number exceeds the limit; an undefined condition counts
as infinite. Arrays that are no square matrix pass. -/
def checkConditioned (a : Tensor α) (operation : String) (limit : Literal α) :
    Outcome α Unit :=
  match a.squareRows? with
  | none => .ok ()
  | some rows =>
    let raw := conditionNumber rows
    let condition := if Scalar.isFinite raw then raw else 1 / 0
    do
      let bound ← limit.compared
      if bound.lt (.real condition) then throw (.illConditioned operation condition a.length)

end ManifoldOpt
