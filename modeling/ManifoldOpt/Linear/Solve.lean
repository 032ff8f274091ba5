import ManifoldOpt.Tensor.Product

/-!
Square linear systems, by elimination and by iteration. A singular system runs eliminations into a
division by zero, which shows in the solution; the iterations stop once the residual is small relative
to the right hand side.
-/

set_option autoImplicit false

namespace ManifoldOpt

variable {α : Type} [Scalar α]

structure Equation (α : Type) where
  coefficients : List α
  value : α

namespace Equation

def leading (e : Equation α) : α := e.coefficients.headD 0

def eliminate (pivot e : Equation α) : Equation α :=
  let factor := e.leading * (1 / pivot.leading)
  { coefficients :=
      List.zipWith (fun a b => a - factor * b) e.coefficients.tail pivot.coefficients.tail
    value := e.value - factor * pivot.value }

def choosePivot (best : Equation α) : List (Equation α) → Equation α × List (Equation α)
  | [] => (best, [])
  | e :: rest =>
    if Scalar.abs best.leading < Scalar.abs e.leading then
      let (pivot, others) := choosePivot e rest
      (pivot, best :: others)
    else
      let (pivot, others) := choosePivot best rest
      (pivot, e :: others)

def resolve (pivot : Equation α) (others : List α) : α :=
  (pivot.value - sumProducts pivot.coefficients.tail others) / pivot.leading

end Equation

def solveEquations : Nat → List (Equation α) → List α
  | 0, _ => []
  | _, [] => []
  | count + 1, first :: rest =>
    let (pivot, others) := Equation.choosePivot first rest
    let known := solveEquations count (others.map pivot.eliminate)
    pivot.resolve known :: known

def solveLinear (a b : Tensor α) : Outcome α (Tensor α) :=
  match a.squareRows?, b.shape with
  | some rows, [n] =>
    if rows.length = n then
      let equations := List.zipWith
        (fun row value => Equation.mk (row.map Scalar.flush) (Scalar.flush value)) rows b.entries
      .ok (Tensor.vector (solveEquations n equations))
    else .error .shapeClash
  | _, _ => .error .shapeClash

structure LinearSystem (α : Type) where
  rows : List (List α)
  value : List α

namespace LinearSystem

def apply (system : LinearSystem α) (x : List α) : List α :=
  system.rows.map fun row => sumProducts row x

def size (system : LinearSystem α) : Nat := system.value.length

end LinearSystem

namespace Krylov

def plus (x y : List α) : List α := List.zipWith (· + ·) x y

def minus (x y : List α) : List α := List.zipWith (· - ·) x y

def times (c : α) (x : List α) : List α := x.map (c * ·)

def norm (x : List α) : α := Scalar.sqrt (sumProducts x x)

def residual (system : LinearSystem α) (x : List α) : List α := minus system.value (system.apply x)

structure Biconjugate (α : Type) where
  x : List α
  r : List α
  shadow : List α
  alpha : α
  omega : α
  rho : α
  p : List α
  q : List α

def Biconjugate.start (system : LinearSystem α) (x : List α) : Biconjugate α :=
  let r := residual system x
  { x, r, shadow := r, alpha := 1, omega := 1, rho := 1, p := r, q := r }

def Biconjugate.next (system : LinearSystem α) (bound : α) (s : Biconjugate α) :
    Biconjugate α × Bool :=
  let rho := sumProducts s.shadow s.r
  let beta := rho / s.rho * s.alpha / s.omega
  let p := plus s.r (times beta (minus s.p (times s.omega s.q)))
  let q := system.apply p
  let alpha := rho / sumProducts s.shadow q
  let half := minus s.r (times alpha q)
  let t := system.apply half
  let omega := sumProducts t half / sumProducts t t
  let early := decide (sumProducts half half < bound)
  let middle := plus s.x (times alpha p)
  ({ x := if early then middle else plus s.x (plus (times alpha p) (times omega half))
     r := if early then half else minus half (times omega t)
     shadow := s.shadow, alpha, omega, rho, p, q },
    Scalar.isZero omega || Scalar.isZero alpha || Scalar.isZero rho)

def Biconjugate.run (system : LinearSystem α) (bound : α) : Nat → Biconjugate α → List α
  | 0, s => s.x
  | steps + 1, s =>
    if bound < sumProducts s.r s.r then
      let (s', broken) := s.next system bound
      if broken then s'.x else run system bound steps s'
    else s.x

def biconjugate (system : LinearSystem α) (tolerance : α) (start : List α) : List α :=
  let bound := Scalar.maximum
    (tolerance * tolerance * sumProducts system.value system.value) 0
  Biconjugate.run system bound (10 * system.size) (Biconjugate.start system start)

def machineGap : α := 2.220446049250313e-16

def normalize (threshold : α) (x : List α) : List α × α :=
  let n := norm x
  if threshold < n then (x.map (· / n), n) else (x.map fun _ => 0, 0)

def project (basis : List (List α)) (x : List α) : List α × List α :=
  let along := basis.map fun v => sumProducts v x
  (along, minus x ((List.zipWith times along basis).foldl plus (x.map fun _ => 0)))

structure Arnoldi (α : Type) where
  basis : List (List α)
  images : List (List α)

/-- Extends the basis by the part of the last vector's image that is orthogonal to it, found by
projecting twice. -/
def Arnoldi.extend (system : LinearSystem α) (s : Arnoldi α) : Arnoldi α × Bool :=
  let image := system.apply (s.basis.getLastD [])
  let (first, rest) := project s.basis image
  let (second, rest) := project s.basis rest
  let (unit, size) := normalize (machineGap * norm image) rest
  ({ basis := s.basis ++ [unit], images := s.images ++ [plus first second ++ [size]] },
    Scalar.isZero size)

def Arnoldi.build (system : LinearSystem α) : Nat → Arnoldi α → Arnoldi α
  | 0, s => s
  | steps + 1, s =>
    let (s', done) := s.extend system
    if done then s' else build system steps s'

/-- The coefficients of the images that come closest to the target, by the normal equations. -/
def leastSquares (images : List (List α)) (target : List α) : List α :=
  let padded := images.map fun image => image ++ List.replicate (target.length - image.length) 0
  solveEquations padded.length
    (padded.map fun a => ⟨padded.map (sumProducts a), sumProducts a target⟩)

def minimizeOnce (system : LinearSystem α) (restart : Nat) (x : List α) : List α :=
  let (unit, size) := normalize machineGap (residual system x)
  let s := Arnoldi.build system restart ⟨[unit], []⟩
  let weights := leastSquares s.images (size :: List.replicate s.images.length 0)
  plus x ((List.zipWith times weights s.basis).foldl plus (x.map fun _ => 0))

def minimizeFrom (system : LinearSystem α) (bound : α) (restart : Nat) : Nat → List α → List α
  | 0, x => x
  | rounds + 1, x =>
    if bound < (normalize machineGap (residual system x)).2 then
      minimizeFrom system bound restart rounds (minimizeOnce system restart x)
    else x

def minimalResidual (system : LinearSystem α) (tolerance : α) (start : List α) : List α :=
  minimizeFrom system (Scalar.maximum (tolerance * norm system.value) 0)
    (min 20 system.size) (10 * system.size) start

end Krylov

end ManifoldOpt
