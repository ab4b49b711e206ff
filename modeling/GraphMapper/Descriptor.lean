import GraphMapper.EntityType
import GraphMapper.TypeExpr.Target
import GraphMapper.TypeExpr.Written

/-!
# Descriptors

What statements need to know about an entity type is worked out once, and with it whether
the type is fit for use at all. The result is a **descriptor**: the label, and for each
field the property it is stored under or the edge it is loaded through.

`Catalog.describe` accepts a type if it is a declared one, if all types it refers to are
declared, directly or through others, if its label and the properties of its stored fields
are identifiers, and if its relationship fields lead to declared types. The first of these
that fails is reported.
-/

namespace GraphMapper

/-- The part a field plays in the graph. -/
inductive Role where
  /-- It is stored as a property of the node. -/
  | scalar
  /-- It is not stored. -/
  | notMapped
  /-- It is loaded through an edge, from nodes of an entity type, and may hold several. -/
  | relationship (edge : Relationship) (related : EntityRef) (many : Bool)
  deriving DecidableEq

/-- What is known about a field. -/
structure FieldDescriptor where
  /-- The name of the attribute. -/
  name : String
  /-- The property it goes by in the graph. -/
  key : String
  /-- Whether it keeps the value it was made with. -/
  frozen : Bool
  /-- Its part in the graph. -/
  role : Role
  deriving DecidableEq

namespace FieldDescriptor

/-- Whether the field is stored as a property. -/
def isPersistable (f : FieldDescriptor) : Bool := f.role = .scalar

/-- Whether the field holds the identifier of the node. -/
def isIdentifier (f : FieldDescriptor) : Bool := f.key = identifierKey

/-- Whether the field is loaded through an edge. -/
def isRelationship (f : FieldDescriptor) : Bool :=
  match f.role with
  | .relationship _ _ _ => true
  | _ => false

/-- The word for the part a field plays. -/
def kindName (f : FieldDescriptor) : String :=
  match f.role with
  | .scalar => "scalar"
  | .notMapped => "not_mapped"
  | .relationship _ _ _ => "relationship"

end FieldDescriptor

/-- What is known about an entity type. -/
structure Descriptor where
  /-- The label of its nodes. -/
  label : Identifier
  /-- Its fields, in order. -/
  fields : List FieldDescriptor
  deriving DecidableEq

namespace Descriptor

/-- The fields stored as properties. -/
def persistableFields (d : Descriptor) : List FieldDescriptor :=
  d.fields.filter (·.isPersistable)

/-- The stored fields whose values a caller gives; the identifier is assigned. -/
def settableFields (d : Descriptor) : List FieldDescriptor :=
  d.persistableFields.filter (!·.isIdentifier)

/-- The stored fields that an update writes. -/
def updatableFields (d : Descriptor) : List FieldDescriptor :=
  d.settableFields.filter (!·.frozen)

/-- The fields loaded through an edge. -/
def relationshipFields (d : Descriptor) : List FieldDescriptor :=
  d.fields.filter (·.isRelationship)

/-- The property that a name stands for: that of the attribute of this name, or else the
name itself. -/
def graphKey (d : Descriptor) (name : Value) : Value :=
  match d.fields.find? fun f => name.text? == some f.name with
  | some f => .text f.key
  | none => name

/-- A property map with its names replaced by the properties they stand for. Where two names
stand for one property, the later value counts. -/
def translate (d : Descriptor) (properties : Entries) : Entries :=
  Assoc.ofEntries (properties.map fun e => (d.graphKey e.1, e.2))

end Descriptor

namespace Catalog

/-- Where a type expression leads, if that is a known type. -/
def target (c : Catalog) (t : TypeExpr) : Target :=
  match t.target with
  | ⟨some (.entity r), many⟩ => ⟨if c.knows r then some (.entity (c.resolve r)) else none, many⟩
  | target => target

/-- The part a field plays, or what is wrong with it. -/
def roleOf (c : Catalog) (f : Field) : Except ConfigurationProblem Role :=
  match f.relationship? with
  | some edge =>
    match c.target f.type with
    | ⟨some (.entity (.declared number name)), many⟩ =>
      .ok (.relationship edge (.declared number name) many)
    | _ => .error (.badRelationship f.name f.type.written)
  | none =>
    if f.isNotMapped then .ok .notMapped
    else if isIdentifier f.key.toList then .ok .scalar
    else .error (.badKey f.name f.key)

/-- The descriptor of a field, or what is wrong with it. -/
def describeField (c : Catalog) (f : Field) : Except ConfigurationProblem FieldDescriptor :=
  (c.roleOf f).map fun role => ⟨f.name, f.key, f.frozen, role⟩

/-- The descriptor of a type in which nothing is unresolved, or what is wrong with it. -/
def describeType (c : Catalog) (t : EntityType) : Except ConfigurationProblem Descriptor := do
  let label ← match t.label.text?.bind Identifier.ofText? with
    | some label => pure label
    | none => throw (.badLabel t.label)
  let fields ← t.fields.mapM c.describeField
  pure ⟨label, fields⟩

/-- The descriptor of the type of a reference. -/
def describeRef (c : Catalog) (r : EntityRef) : Except Failure Descriptor :=
  match c.find? r with
  | none => .error (.configuration r.name .notAnEntityType)
  | some t => match c.unresolved? r with
    | some missing => .error (.configuration r.name (.unresolved missing))
    | none =>
      if c.isSuited r then (c.describeType t).mapError (.configuration r.name)
      else .error (.misuse .malformedBound)

end Catalog

/-- The entity type that a value is. -/
def Value.entityRef : Value → Except Failure EntityRef
  | .type (.entity r) => .ok r
  | .type t => .error (.configuration t.name .notAnEntityType)
  | v => .error (.configuration v.kindName .notAnEntityType)

/-- The descriptor of a type given as a value. -/
def Catalog.describe (c : Catalog) (type : Value) : Except Failure Descriptor := do
  c.describeRef (← type.entityRef)

end GraphMapper
