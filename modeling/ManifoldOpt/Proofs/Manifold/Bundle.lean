import ManifoldOpt.Manifold.Bundle

set_option autoImplicit false

namespace ManifoldOpt

variable {α : Type} [Scalar α]

inductive Literal.NamesRetraction : Literal α → Prop
  | default : NamesRetraction .none
  | method (m : Retraction) : NamesRetraction (.retraction m)

inductive Literal.NamesTransport : Literal α → Prop
  | default : NamesTransport .none
  | method (m : Transport) : NamesTransport (.transport m)

/-- Over points of a shape the Newton equation is made of the same operations of two bundles. -/
structure Bundle.AgreeOn (shape : Shape) (bundle bundle' : Bundle α) : Prop where
  dimension : bundle'.fiberDimension = bundle.fiberDimension
  zero : ∀ {p}, p.shape = shape → bundle'.zero p = bundle.zero p
  basis : ∀ {p}, p.shape = shape → bundle'.basis p = bundle.basis p
  coordinates : ∀ {p}, p.shape = shape → bundle'.coordinates p = bundle.coordinates p
  transport : ∀ {p q method}, p.shape = shape → q.shape = shape → method.NamesTransport →
    ∀ v, bundle'.transport p q v method = bundle.transport p q v method
  defaultTransport : bundle'.defaultTransport = bundle.defaultTransport

theorem euclidean_retract_eq {shape : Shape} {p v : Tensor α} {method : Literal α}
    (named : method.NamesRetraction) : (euclidean shape).retract p v method = p.add v := by
  cases named with
  | default => rfl
  | method m =>
    cases m with
    | exponential => rfl
    | projection => rfl

theorem euclidean_transport {shape : Shape} {p q v : Tensor α} {method : Literal α}
    (named : method.NamesTransport) : (euclidean shape).transport p q v method = .ok v := by
  -- Flat space needs no transport: both methods leave the vector as it is.
  cases named with
  | default => rfl
  | method m =>
    cases m with
    | parallel => rfl
    | projection => rfl

theorem trivial_transport_eq {M : Manifold α} {shape : Shape} {p q v : Tensor α}
    {method : Literal α} (named : method.NamesTransport) :
    (Bundle.trivial M shape).transport p q v method = .ok v := by
  cases named with
  | default => rfl
  | method m => rfl

theorem tangent_agrees_trivial (shape : Shape) :
    Bundle.AgreeOn shape (.tangent (euclidean (α := α) shape))
      (.trivial (euclidean shape) shape) where
  dimension := rfl
  zero inside := by
    rw [← inside]
    rfl
  basis _ := rfl
  coordinates _ := by
    funext v given
    cases given with
    | none => rfl
    | some basis => rfl
  transport _ _ named v := (trivial_transport_eq named).trans (euclidean_transport named).symm
  defaultTransport := rfl

end ManifoldOpt
