import GraphMapper.Entity

/-!
# Nodes and entities

The database answers with rows of values. The first column of a row holds the node of
interest, which is a mapping, or anything that lists entries; its **properties** are the
entries. They become an entity by validation. Where there is no node there is no entity.

The other way round, an entity is stored by the values of its stored fields, each under the
property of the field.
-/

namespace GraphMapper

/-- Values by name: the parameters of a statement, the properties of a node. -/
abbrev Parameters := List (String × Value)

namespace Value

/-- The map of values by name. -/
def ofParameters (parameters : Parameters) : Value := .map (ofNames parameters)

/-- The properties of a node, none for null. -/
def nodeProperties : Value → Except Failure (Option Entries)
  | .null => .ok none
  | v => match v.entries? with
    | some entries => .ok (some (Assoc.ofEntries entries))
    | none => .error (.notANode v.kindName)

/-- The pair that an element of a list of pairs is. -/
def pairAt (index : Nat) (element : Value) : Except Failure (Value × Value) :=
  match element.elements? with
  | none => .error (.misuse .wrongKind)
  | some [k, v] => if k.isKey then .ok (k, v) else .error (.misuse .wrongKind)
  | some parts => .error (.misuse (.notAPair index parts.length))

/-- The pairs that the elements of a list are, the first standing at an index. -/
def pairsFrom : Nat → List Value → Except Failure Entries
  | _, [] => .ok []
  | index, element :: rest => do
    let pair ← pairAt index element
    let pairs ← pairsFrom (index + 1) rest
    pure (pair :: pairs)

/-- The entries of a map made from a value: those of a mapping, or a list of pairs. -/
def toEntries (v : Value) : Except Failure Entries :=
  match v.mapping? with
  | some entries => .ok entries
  | none => match v.elements? with
    | some elements => (pairsFrom 0 elements).map Assoc.ofEntries
    | none => .error (.misuse .wrongKind)

mutual

/-- A value with the nodes in it turned into maps. -/
def withoutNodes : Value → Value
  | .list items => .list (itemsWithoutNodes items)
  | .map entries | .node entries => .map (entriesWithoutNodes entries)
  | v => v

/-- Items with the nodes in them turned into maps. -/
def itemsWithoutNodes : List Value → List Value
  | [] => []
  | v :: rest => withoutNodes v :: itemsWithoutNodes rest

/-- Entries with the nodes in their values turned into maps. -/
def entriesWithoutNodes : List (Value × Value) → List (Value × Value)
  | [] => []
  | (k, v) :: rest => (k, withoutNodes v) :: entriesWithoutNodes rest

end

end Value

/-- The first column of the first of some rows, null if there are no rows. -/
def firstValue : List (List Value) → Except Failure Value
  | [] => .ok .null
  | [] :: _ => .error (.misuse .noColumn)
  | (v :: _) :: _ => .ok v

namespace Catalog

/-- The entity with some properties, null if there are none. -/
def mapNode (c : Catalog) (now : Float) (type : EntityRef) :
    Option Entries → Except Failure Value
  | none => .ok .null
  | some properties => c.construct now type properties

/-- The entity that a value stands for; the value may be null, a mapping or a list of
pairs. -/
def mapValue (c : Catalog) (now : Float) (type : EntityRef) : Value → Except Failure Value
  | .null => .ok .null
  | v => do c.construct now type (← v.toEntries)

/-- The entities that several values stand for, nulls left out. -/
def mapValues (c : Catalog) (now : Float) (type : EntityRef) :
    List Value → Except Failure (List Value)
  | [] => .ok []
  | .null :: rest => c.mapValues now type rest
  | v :: rest => do
    let entity ← c.mapValue now type v
    let entities ← c.mapValues now type rest
    pure (entity :: entities)

end Catalog

/-! ### Storing -/

/-- What an entity holds in those of some fields that are stored, by their properties. Where
two fields share a property, the later one counts. -/
def Value.storedValues (entity : Value) (fields : List FieldDescriptor) : Parameters :=
  Assoc.ofEntries ((fields.filter (·.isPersistable)).map fun f => (f.key, entity.attr f.name))

namespace Catalog

/-- The descriptor of the type of a value, which has to be an entity. -/
def describeEntity (c : Catalog) (entity : Value) : Except Failure Descriptor :=
  match entity.entityType? with
  | some type => c.describeRef type
  | none => .error (.configuration entity.kindName .notAnEntityType)

/-- The entity that is read back from what is stored of an entity of a type. -/
def readBack (c : Catalog) (now : Float) (type : EntityRef) (entity : Value) :
    Except Failure Value := do
  let d ← c.describeRef type
  c.mapNode now type (some (Value.ofNames (entity.storedValues d.persistableFields)))

/-- An entity as it is read back from what is stored of it. -/
def revalidate (c : Catalog) (now : Float) (entity : Value) : Except Failure Value :=
  match entity.entityType? with
  | some type => c.readBack now type entity
  | none => .error (.misuse .missingFeature)

end Catalog

/-! ### Features of an entity -/

/-- What an entity can be asked to do. -/
inductive EntityFeature where
  /-- To describe its type. -/
  | describe
  /-- To make a copy of itself. -/
  | copy
  deriving DecidableEq, Repr

/-- The name of a feature. -/
def EntityFeature.name : EntityFeature → String
  | describe => "describe"
  | copy => "model_copy"

/-- An entity that is asked for a feature has to have it: an attribute with the name of the
feature hides it, and values of other kinds do not have it. -/
def Value.requireFeature (v : Value) (feature : EntityFeature) : Except Failure Unit :=
  match v with
  | .entity _ attributes =>
    if (attributes.lookup feature.name).isSome then .error (.misuse .wrongKind) else .ok ()
  | _ => .error (.misuse .missingFeature)

end GraphMapper
