import GraphMapper.Descriptor

/-!
# The registry of entity types

A registry is a catalog together with the descriptors worked out so far. A descriptor is
worked out when it is first asked for, and kept; decorating a type drops the one kept for
it. A description that fails is not kept, so it can succeed once a missing type has been
declared.
-/

namespace GraphMapper

/-- The declared types, and the descriptors worked out so far. -/
structure Registry where
  /-- The declared types. -/
  catalog : Catalog := {}
  /-- Descriptors, by the types they describe. -/
  described : List (EntityRef × Descriptor) := []

namespace Registry

/-- The registry without the descriptor kept for a type. -/
def forget (r : Registry) (type : EntityRef) : Registry :=
  { r with described := r.described.filter (·.1 ≠ type) }

/-- The registry with one more declaration. -/
def declare (r : Registry) (d : Declaration) : Except Failure Registry :=
  (r.catalog.declare d).map fun catalog => { r with catalog }

/-- The registry with a type decorated. Only entity types can be; decorating the base type
shows nowhere. -/
def decorate (r : Registry) (type : Value) (label : Value) : Except Failure Registry :=
  match type with
  | .type (.entity ref) =>
    if r.catalog.knows ref then
      .ok { r.forget (r.catalog.resolve ref) with catalog := r.catalog.decorate ref label }
    else .error .notAnEntityType
  | _ => .error .notAnEntityType

/-- The descriptor kept for a type given as a value. -/
def kept? (r : Registry) : Value → Option Descriptor
  | .type (.entity ref) => r.described.lookup (r.catalog.resolve ref)
  | _ => none

/-- The registry with a descriptor kept for a type given as a value. -/
def keep (r : Registry) (type : Value) (d : Descriptor) : Registry :=
  match type with
  | .type (.entity ref) => { r with described := (r.catalog.resolve ref, d) :: r.described }
  | _ => r

/-- The descriptor of a type, and the registry that keeps it. -/
def describe (r : Registry) (type : Value) : Except Failure Descriptor × Registry :=
  match r.kept? type with
  | some d => (.ok d, r)
  | none => match r.catalog.describe type with
    | .ok d => (.ok d, r.keep type d)
    | .error e => (.error e, r)

/-- The label of a type, and the registry that keeps its descriptor. -/
def labelOf (r : Registry) (type : Value) : Except Failure Identifier × Registry :=
  let (answer, r) := r.describe type
  (answer.map Descriptor.label, r)

/-- Whether asking for a descriptor twice gives the same one, and the registry that keeps
it. -/
def describesAlike (r : Registry) (type : Value) : Except Failure Bool × Registry :=
  match r.describe type with
  | (.error e, r) => (.error e, r)
  | (.ok first, r) =>
    let (second, r) := r.describe type
    (second.map (decide <| first = ·), r)

end Registry

end GraphMapper
