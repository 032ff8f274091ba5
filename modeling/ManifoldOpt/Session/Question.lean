import ManifoldOpt.Session.State

set_option autoImplicit false

namespace ManifoldOpt

structure Question where
  point : Option (Tensor Float)
  direction : Option (Tensor Float)
  directionPoint : Option (Tensor Float)
  reset : Bool
  iteration : Option Int

namespace Question

def pose (q : Question) (s : SubgradientState Float) : SubgradientState Float :=
  { s with
    point := q.point.getD s.point
    direction := q.direction.getD s.direction
    directionPoint := q.directionPoint.getD s.directionPoint }

end Question

namespace StoppingRule

def shownWhole (rule : StoppingRule Float) : List (String × Shown) :=
  [("info", rule.shown), ("summary", .text rule.summary)]

def respond (view : View Float) (rule : StoppingRule Float) (trail : Trail Float) :
    Option Int → Shown × StoppingRule Float × Trail Float
  | none => (.nothing, rule, trail)
  | some k =>
    match rule.ask view k ⟨trail, rule.memory⟩ with
    | .ok fired s => (.flag fired, { rule with memory := s.state }, s.trail)
    | .error e s => (.fault e, { rule with memory := s.state }, s.trail)

def respondEach (M : Manifold Float) :
    List Question → SubgradientState Float → StoppingRule Float → Trail Float →
      List Shown × Trail Float
  | [], _, _, trail => ([], trail)
  | q :: rest, s, rule, trail =>
    let s := q.pose s
    let rule := if q.reset then rule.reset else rule
    let (fired, rule, trail) := rule.respond (Subgradient.plainView M s) trail q.iteration
    let (others, trail) := respondEach M rest s rule trail
    (.fields (("fired", fired) :: rule.shownWhole) :: others, trail)

def transcript (M : Manifold Float) (rule : StoppingRule Float) (questions : List Question) :
    Shown × Trail Float :=
  let first := Shown.fields (("kind", .text rule.root.kind.name) :: rule.shownWhole)
  let (others, trail) :=
    respondEach M questions (.start M (.zeros [2]) none none .none) rule {}
  (.items (first :: others), trail)

end StoppingRule

end ManifoldOpt
