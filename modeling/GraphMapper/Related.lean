import GraphMapper.Node
import GraphMapper.World

/-!
# Related nodes

A node read from the graph comes without the nodes it is linked to. They are looked up one
relationship field after the other, in the order of the declarations, each with a statement
of its own, and put next to the properties of the node. Fields whose lookup finds nothing
are left alone.

How a statement is run is not decided here: `Lookup` is whatever runs it.
-/

namespace GraphMapper

/-- A way to run a lookup statement. -/
abbrev Lookup (σ : Type) := String → Value → Action σ Result

namespace Related

open GraphMapper.Action

/-- The parameter that holds the identifier of the node whose related nodes are looked
up. -/
def rootParameter : String := "uuid"

/-- The statement that looks up the nodes of a label through an edge, from a node of another
label. -/
def statementFor (label : String) (edge : Relationship) (relatedLabel : String) :
    Except Failure String :=
  Template.getByProperties.render
    [("label", .text label), ("clause", .text (identifierKey ++ ":$" ++ rootParameter)),
      ("relationship", .text edge.pattern),
      ("relatedNode", .text (Relationship.relatedNodePattern relatedLabel)),
      ("result", .text relatedVariable)]

/-- The statement for a relationship field of a described type, none for a field that is no
relationship. The type it leads to has to be fit for use as well. -/
def statement (c : Catalog) (d : Descriptor) (f : FieldDescriptor) : Except Failure String :=
  match f.role with
  | .relationship edge related _ => do
    let r ← c.describeRef related
    statementFor d.label.text edge r.label.text
  | _ => .error (.misuse .missingFeature)

/-- The statements for all relationship fields of a type. -/
def statements (c : Catalog) (type : Value) : Except Failure (List String) := do
  let d ← c.describe type
  d.relationshipFields.mapM (statement c d)

/-- The node in a row, as a map; null if there is none. -/
def nodeOf (r : Record) : Except Failure Value := do
  match ← r.first.nodeProperties with
  | some properties => pure (.map properties)
  | none => pure .null

/-- What a field holds that leads to some nodes, at least one: all of them, or the first. -/
def fieldValue (f : FieldDescriptor) (first : Value) (rest : List Value) : Value :=
  match f.role with
  | .relationship _ _ true => .list (first :: rest)
  | _ => first

/-- What is found through a field, put into a map under the field's property. -/
def collect (f : FieldDescriptor) (nodes : List Value) (found : Entries) : Entries :=
  match nodes with
  | [] => found
  | first :: rest => Assoc.set (.text f.key) (fieldValue f first rest) found

variable {σ : Type}

/-- What is found through some fields, one after the other, put into a map. -/
def fetchFields (c : Catalog) (lookup : Lookup σ) (d : Descriptor) (uuid : Value) :
    List FieldDescriptor → Entries → Action σ Entries
  | [], found => pure found
  | f :: rest, found => do
    let statement ← ofOutcome (statement c d f)
    let result ← lookup statement (.ofParameters [(rootParameter, uuid)])
    let nodes ← ofOutcome (result.records.mapM nodeOf)
    fetchFields c lookup d uuid rest (collect f nodes found)

/-- Note which fields of a node led to something. -/
def noteFound (typeName : String) (uuid : Value) (found : Entries) : Action σ Unit :=
  if found.isEmpty then pure ()
  else
    let keys := Template.sorted (found.map fun e => e.1.display)
    note .debug .relationships
      ("Resolved " ++ Value.writtenTexts keys ++ " for " ++ typeName ++ " " ++ uuid.display)

/-- The related nodes of a node of a type, by the properties of the fields that lead to
them. -/
def fetch (c : Catalog) (lookup : Lookup σ) (type uuid : Value) : Action σ Entries := do
  let r ← ofOutcome type.entityRef
  let d ← ofOutcome (c.describeRef r)
  let found ← fetchFields c lookup d uuid d.relationshipFields []
  noteFound r.name uuid found
  pure found

/-- The properties of a node together with its related nodes. Without an identifier nothing
is looked up. -/
def withRelated (c : Catalog) (lookup : Lookup σ) (type properties : Value) :
    Action σ Entries := do
  let merged ← ofOutcome properties.toEntries
  let uuid := (merged.lookup (.text identifierKey)).getD .null
  if uuid.isNull then pure merged
  else
    let d ← ofOutcome (c.describe type)
    if d.relationshipFields.isEmpty then pure merged
    else pure (Assoc.update merged (← fetch c lookup type uuid))

end Related

end GraphMapper
