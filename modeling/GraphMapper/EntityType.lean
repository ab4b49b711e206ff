import GraphMapper.Relationship
import GraphMapper.Validation.Bounds

/-!
# Entity types

An **entity type** stands for the nodes of one label. It has fields; each has a type, may
have an alias under which the graph knows it, a default, bounds, and marks that say how it
relates to the graph. All entity types start from the four fields of the base type.

The types declared so far form a **catalog**, in the order of their declarations. A name may
be declared again: the earlier type stays, for those that refer to it, and from then on the
name stands for the later one. What is declared under the name of the base type can only be
extended; otherwise the name goes on standing for the base type.
-/

namespace GraphMapper

/-- What a field holds when nothing is given for it. -/
inductive Default where
  /-- Something has to be given. -/
  | required
  /-- This value. -/
  | value (v : Value)
  /-- A list without items. -/
  | emptyList
  /-- The time at which the instance is made. -/
  | currentTime

/-- What is said about the relation of a field to the graph. -/
inductive Mark where
  /-- The field holds the nodes at the other end of an edge. -/
  | relationship (r : Relationship)
  /-- The field is not stored. -/
  | notMapped
  /-- A remark without meaning for the graph. -/
  | other

/-- A field of an entity type. -/
structure Field where
  /-- The name of the attribute. -/
  name : String
  /-- What it may hold. -/
  type : TypeExpr
  /-- The name it goes by in the graph, if that is another. -/
  alias? : Option String := none
  /-- What it holds when nothing is given. -/
  default : Default := .required
  /-- Whether it keeps the value it was made with. -/
  frozen : Bool := false
  /-- What is said about its relation to the graph. -/
  marks : List Mark := []
  /-- Bounds on its values. -/
  bounds : Bounds := {}

namespace Field

/-- The property under which the graph knows the field. -/
def key (f : Field) : String :=
  match f.alias? with
  | some a => if a = "" then f.name else a
  | none => f.name

/-- The first relationship among the marks. -/
def relationship? (f : Field) : Option Relationship :=
  f.marks.findSome? fun
    | .relationship r => some r
    | _ => none

/-- Whether the field is marked as not stored. -/
def isNotMapped (f : Field) : Bool :=
  f.marks.any fun
    | .notMapped => true
    | _ => false

/-- The names under which a value for the field is looked for, in order. -/
def inputNames (f : Field) : List String :=
  match f.alias? with
  | some a => [a, f.name]
  | none => [f.name]

/-- The name under which a missing value is reported. -/
def inputName (f : Field) : String := f.alias?.getD f.name

end Field

/-- The fields every entity type starts with: an identifier, the times of creation and of
the last update, and whether the node is deleted. -/
def baseFields : List Field :=
  [{ name := "uuid", type := .optional (.plain .text), alias? := some identifierKey,
     default := .value .null, frozen := true },
   { name := "created_at", type := .plain .float, alias? := some createdAtKey,
     default := .currentTime, frozen := true },
   { name := "updated_at", type := .optional (.plain .float), alias? := some updatedAtKey,
     default := .value .null },
   { name := "is_deleted", type := .plain .truth, alias? := some deletedKey,
     default := .value (.bool false) }]

/-- An entity type. -/
structure EntityType where
  /-- The number of its declaration. -/
  number : Nat
  /-- Its name. -/
  name : String
  /-- The label of its nodes. -/
  label : Value
  /-- Its fields, inherited ones first. -/
  fields : List Field
  /-- The declared types that it extends, the nearest first. -/
  bases : List EntityRef := []

namespace EntityType

/-- The reference to a type. -/
def ref (t : EntityType) : EntityRef := .declared t.number t.name

/-- The fields of a type and some more. A field declared again keeps its place. -/
def extend (fields : List Field) (more : List Field) : List Field :=
  (Assoc.update (fields.map fun f => (f.name, f)) (more.map fun f => (f.name, f))).map Prod.snd

/-- The entity types its fields refer to. -/
def references (t : EntityType) : List EntityRef := t.fields.flatMap (·.type.references)

/-- Whether the bounds of all its fields suit their types. -/
def isSuited (t : EntityType) : Bool := t.fields.all fun f => f.bounds.suit f.type

/-- The type with the label of a decoration: the one that is given, if it is not empty, else
the name of the type. -/
def decorate (label : Value) (t : EntityType) : EntityType :=
  { t with label := if label.truthy then label else .text t.name }

end EntityType

/-- The declaration of an entity type. -/
structure Declaration where
  /-- The name of the type. -/
  name : String
  /-- The type whose fields it starts from, the base type if none is named. -/
  parent? : Option String := none
  /-- A label of its own. -/
  label? : Option Value := none
  /-- The label of a decoration that follows. -/
  decoration? : Option Value := none
  /-- The fields it adds or declares again. -/
  fields : List Field := []

/-- The entity types declared so far. -/
structure Catalog where
  /-- The types, in the order of their declarations. -/
  types : List EntityType := []

namespace Catalog

/-! ### Looking up -/

/-- The type last declared under a name. -/
def latest? (c : Catalog) (name : String) : Option EntityType :=
  c.types.reverse.find? (·.name = name)

/-- What a name refers to. -/
def refer (c : Catalog) (name : String) : EntityRef :=
  if name = baseTypeName then .base else ((c.latest? name).map EntityType.ref).getD (.pending name)

/-- What a reference comes to, now that more may have been declared since it was made. -/
def resolve (c : Catalog) : EntityRef → EntityRef
  | .pending name => c.refer name
  | r => r

/-- The type of a reference, if it is a declared one. -/
def find? (c : Catalog) (r : EntityRef) : Option EntityType :=
  match c.resolve r with
  | .declared number _ => c.types.find? (·.number = number)
  | _ => none

/-- Whether a reference is to the base type or to a declared one. -/
def knows (c : Catalog) (r : EntityRef) : Bool := !(c.resolve r).isPending

/-- Whether all instances of a type are instances of another one: this is so for the type itself,
for the base type, and for what the type extends. -/
def derives (c : Catalog) (s r : EntityRef) : Bool :=
  s = r || r = .base || (c.find? s).any (·.bases.contains r)

/-- The fields of the type of a reference, those of the base type if it is not declared. -/
def fieldsOf (c : Catalog) (r : EntityRef) : List Field :=
  ((c.find? r).map EntityType.fields).getD baseFields

/-! ### Going along references -/

/-- All references met when going from the `pending` ones to those that their types make.
The references of a type are followed the first time it is met, before those that are still
pending. -/
def walk (c : Catalog) : Nat → List EntityRef → List EntityRef → List EntityRef
  | 0, _, _ => []
  | _ + 1, [], _ => []
  | n + 1, r :: pending, seen =>
    let r := c.resolve r
    if seen.contains r then r :: walk c n pending seen
    else r :: walk c n (((c.find? r).map EntityType.references).getD [] ++ pending) (r :: seen)

/-- How many references can be met: each type makes its own once. -/
def references (c : Catalog) : Nat :=
  c.types.foldr (fun t n => t.references.length + n) 2

/-- All references met from a type on, the one to itself first. -/
def referencesFrom (c : Catalog) (r : EntityRef) : List EntityRef := c.walk c.references [r] []

/-- The first reference to a type not declared that is met when going from the `pending`
types to those they refer to, leaving out what has been `seen`. All that one type refers to
is looked at before anything behind it. -/
def search? (c : Catalog) : Nat → List EntityRef → List EntityRef → Option EntityRef
  | 0, _, _ => none
  | _ + 1, [], _ => none
  | n + 1, r :: pending, seen =>
    let r := c.resolve r
    if seen.contains r then search? c n pending seen
    else match c.find? r with
      | none => search? c n pending (r :: seen)
      | some t => match t.references.find? (!c.knows ·) with
        | some missing => some missing
        | none => search? c n (t.references ++ pending) (r :: seen)

/-- The name of a type not declared that a type refers to, directly or through others. -/
def unresolved? (c : Catalog) (r : EntityRef) : Option String :=
  (c.search? c.references [r] []).map EntityRef.name

/-- The catalog as it was when a type was declared, that type included. -/
def asOf (c : Catalog) (r : EntityRef) : Catalog :=
  match c.resolve r with
  | .declared number _ => ⟨c.types.take (number + 1)⟩
  | _ => c

/-- Whether a type and all those it refers to, directly or through others, have fields whose
bounds suit their types. -/
def isSuited (c : Catalog) (r : EntityRef) : Bool :=
  (c.referencesFrom r).all fun r => (c.find? r).all EntityType.isSuited

/-! ### Declaring -/

/-- The fields that a declaration starts from. -/
def parentFields (c : Catalog) (d : Declaration) : Except Failure (List Field) :=
  match d.parent? with
  | none => .ok baseFields
  | some name => match c.latest? name with
    | some t => .ok t.fields
    | none => .error (.misuse .missingFeature)

/-- The declared types that a declaration extends, the nearest first. -/
def parentBases (c : Catalog) (d : Declaration) : List EntityRef :=
  (d.parent?.bind c.latest?).elim [] fun t => t.ref :: t.bases

/-- The type that a declaration declares. Where it refers to its own name before that is
declared, it refers to itself. -/
def declared (c : Catalog) (parentFields : List Field) (d : Declaration) : EntityType :=
  let number := c.types.length
  let itself (r : EntityRef) : EntityRef :=
    if r = .pending d.name then .declared number d.name else r
  let own := d.fields.map fun f => { f with type := f.type.bind itself }
  let plain : EntityType :=
    { number, name := d.name, label := d.label?.getD (.text d.name)
      fields := EntityType.extend parentFields own
      bases := c.parentBases d }
  match d.decoration? with
  | some label => plain.decorate label
  | none => plain

/-- Whether a field can have a name. -/
def isFieldName (name : String) : Bool := name.toList.head? != some '_'

/-- The catalog with one more declaration. The type extended has to be declared. The bounds
of fields have to suit their types as soon as all types referred to are declared. -/
def declare (c : Catalog) (d : Declaration) : Except Failure Catalog := do
  let parentFields ← c.parentFields d
  if !d.fields.all fun f => isFieldName f.name then throw (.misuse .reservedName)
  let t := c.declared parentFields d
  let extended : Catalog := ⟨c.types ++ [t]⟩
  if (extended.unresolved? t.ref).isNone && !extended.isSuited t.ref then
    throw (.misuse .malformedBound)
  pure extended

/-- The catalog with a type of it decorated. -/
def decorate (c : Catalog) (r : EntityRef) (label : Value) : Catalog :=
  ⟨c.types.map fun t => if t.ref = c.resolve r then t.decorate label else t⟩

/-! ### The registered types -/

/-- The types that can be found by their labels: all but those under the name of the base
type. -/
def registered (c : Catalog) : List EntityType := c.types.filter (·.name ≠ baseTypeName)

/-- The first type with a label equal to a value. -/
def findByLabel? (c : Catalog) (label : Value) : Option EntityType :=
  c.registered.find? (·.label == label)

/-- The names of the registered types, in increasing order. -/
def names (c : Catalog) : List String := Template.sorted (c.registered.map EntityType.name)

end Catalog

end GraphMapper
