import ManifoldOpt.Manifold.Euclidean

set_option autoImplicit false

namespace ManifoldOpt

variable {α : Type} [Scalar α]

namespace Sphere

def project (x v : Tensor α) : Outcome α (Tensor α) := do
  let products ← x.mul v
  let along ← products.sumLast
  let component ← along.mul x
  v.sub component

def exp (x v : Tensor α) : Outcome α (Tensor α) := do
  let angle := v.length
  let safe := Scalar.maximum angle Tolerance.epsilon
  let direction := v.map (Scalar.quotient · safe)
  let moved ← (x.scale (Scalar.cos safe)).add (direction.scale (Scalar.sin safe))
  let near ← x.add v
  return if angle < Tolerance.epsilon then near else moved

def split (x y : Tensor α) : Outcome α (Tensor α × Tensor α) := do
  let cosine ← x.dot y
  let along ← cosine.mul x
  let tangential ← y.sub along
  return (cosine, tangential)

def log (x y : Tensor α) : Outcome α (Tensor α) := do
  let (cosine, tangential) ← split x y
  let sine := tangential.length
  let angle := cosine.map (Scalar.atan2 sine)
  let product ← angle.mul tangential
  let guarded := Scalar.maximum sine Tolerance.epsilon
  let scaled := product.map (Scalar.quotient · guarded)
  Tensor.select (decide (sine < Tolerance.epsilon)) tangential scaled

def dist (x y : Tensor α) : Outcome α (Tensor α) := do
  let (cosine, tangential) ← split x y
  return cosine.map (Scalar.atan2 tangential.length)

def retr (x v : Tensor α) : Outcome α (Tensor α) := do
  let y ← x.add v
  let size := y.length
  return y.map (Scalar.quotient · size)

/-- The rotation of the plane of `x` and `y` that takes `x` to `y`, applied to a tangent vector. -/
def rotateAlong (x y v : Tensor α) : Outcome α (Tensor α) := do
  let height ← y.dot v
  let cosine ← x.dot y
  let ratio ← height.div (cosine.map (Scalar.sum 1))
  let middle ← x.add y
  let change ← ratio.mul middle
  v.sub change

def transp (x y v : Tensor α) : Outcome α (Tensor α) := do
  let distance ← dist x y
  let d ← distance.number
  let nearby ← project y v
  let along ← rotateAlong x y v
  if nearby.shape = along.shape then
    return if d < Tolerance.epsilon then nearby else along
  else .error .shapeClash

/-- The reflection that exchanges `x` and the last unit vector is orthogonal and symmetric, so its
other rows are an orthonormal basis of the vectors orthogonal to `x`. -/
def basis (n : Nat) (x : Tensor α) : Outcome α (Tensor α) := do
  let e ← x.zerosLike.setLast 1
  let w ← x.sub e
  let ww ← w.dot w
  let identity : Tensor α := Tensor.identity (n + 1)
  let guarded := ww.map (Scalar.maximum · Tolerance.epsilon)
  let ratio ← ((w.outer w).scale (1 + 1)).div guarded
  let householder ← identity.sub ratio
  let reflection ←
    Tensor.selectBy (fun s => decide (s < Tolerance.epsilon)) ww identity householder
  return reflection.leading n

def normalizeLast (x : Tensor α) : Outcome α (Tensor α) := do
  let squares ← (x.map Scalar.square).sumLast
  x.div (squares.map Scalar.sqrt)

def isPoint (absolute : α) (x : Tensor α) : Bool :=
  decide (Scalar.abs (x.length - 1) ≤ absolute)

end Sphere

def sphere (n : Nat) : Manifold α where
  typeName := "Sphere"
  label := "Sphere(" ++ toString n ++ ")"
  dimension := .ok (.int n)
  ambientDimension := some (.int (n + 1))
  project := Sphere.project
  projectNothing := .notNumber
  exp := Sphere.exp
  log := Sphere.log
  retr := Sphere.retr
  transp := Sphere.transp
  inner _ u v := u.dot v
  basis := Sphere.basis n
  dist := Sphere.dist
  randomPoint seed given := Sphere.normalizeLast (Sample.normal seed (sampleShape [n + 1] given))
  randomTangent seed x given := Sphere.project x (Sample.normal seed (sampleShape x.shape given))
  isPoint absolute x := .ok (Sphere.isPoint absolute x)
  isTangent absolute x v :=
    if Sphere.isPoint absolute x then do
      let height ← x.dot v
      height.holds fun h => decide (Scalar.abs h ≤ absolute)
    else .ok false

end ManifoldOpt
