import GraphMapper.Clause
import GraphMapper.Operation
import GraphMapper.Text.Blank

/-!
# The request of an operation

Arguments are checked in the order in which they are given, and then the type is described;
only after that is a statement put together. Labels, properties and names of relationships
go into its text, everything else into its parameters.

Where one statement binds several maps, the parameters of each have a prefix of their own.
-/

namespace GraphMapper

/-! ### Checking arguments -/

namespace Argument

/-- An entity; its type. -/
def entity (argument : String) (v : Value) : Except Failure EntityRef :=
  match v.entityType? with
  | some type => .ok type
  | none => .error (.argument argument (argument ++ " must be a " ++ baseTypeName ++ " instance"))

/-- A text that is not blank, or the complaint about it. -/
def nonBlank (argument complaint : String) (v : Value) : Except Failure String :=
  match v with
  | .text s => if Text.isBlank s then .error (.argument argument complaint) else .ok s
  | _ => .error (.argument argument complaint)

/-- The identifier of a node. -/
def uuid (argument : String) (v : Value) : Except Failure String :=
  nonBlank argument (argument ++ " must be a non-blank string") v

/-- A mapping with entries. -/
def properties (argument : String) (v : Value) : Except Failure Entries :=
  match v.mapping? with
  | some (e :: rest) => .ok (e :: rest)
  | _ => .error (.argument argument (argument ++ " must be a non-empty mapping"))

/-- A relationship. -/
def relationship (r : Option Relationship) : Except Failure Relationship :=
  match r with
  | some r => .ok r
  | none => .error (.argument "relationship" "relationship must be a Relationship")

/-- The name of a property. -/
def propertyName (v : Value) : Except Failure String :=
  nonBlank "name" "Property name is required" v

/-- The value of a property. -/
def propertyValue (v : Value) : Except Failure Value :=
  if v.isNull then .error (.argument "value" "Property value is required") else .ok v

/-- A label. -/
def label (v : Value) : Except Failure String := nonBlank "label" "Label is required" v

/-- The text of a statement. -/
def query (v : Value) : Except Failure String := nonBlank "query" "Query text is required" v

/-- An entity type that can be described, and its descriptor. -/
def entityType (c : Catalog) (type : Value) : Except Failure (EntityRef × Descriptor) := do
  let type ← type.entityRef
  let d ← c.describeRef type
  pure (type, d)

end Argument

namespace Request

/-! ### Nodes -/

/-- The prefix of parameters for a node that is created. -/
def onCreatePrefix : String := "create_"

/-- The prefix of parameters for a node that is there. -/
def onMatchPrefix : String := "match_"

/-- The prefix of parameters for an edge. -/
def relationshipPrefix : String := "r_"

/-- Substitutions that are texts. -/
def substitutions (entries : List (String × String)) : List (String × Value) :=
  entries.map fun e => (e.1, .text e.2)

/-- Create a node with the settable values of an entity and a fresh identifier. -/
def add (c : Catalog) (identifier : String) (entity : Value) : Except Failure Request := do
  let type ← Argument.entity "entity" entity
  let d ← c.describeRef type
  let clause ← Clause.condition "" (Value.ofNames (entity.storedValues d.settableFields))
  let conditions := joinClauses [clause.text, identifierKey ++ ":$" ++ identifierKey]
  let statement ← Template.create.render
    (substitutions [("node", d.label.text), ("conditions", conditions)])
  pure ⟨statement, .ofParameters (Assoc.set identifierKey (.text identifier) clause.parameters),
    .createdNode type d.label.text identifier⟩

/-- The entity as it is after an update: stamped with the time. -/
def stamped (now : Float) (entity : Value) : Value := entity.withAttr "updated_at" (.float now)

/-- Update a live node with the updatable values of an entity. -/
def update (c : Catalog) (now : Float) (skipNull : Bool) (entity uuid : Value) (fetch : Bool) :
    Except Failure Request := do
  let type ← Argument.entity "entity" entity
  let uuid ← Argument.uuid "uuid" uuid
  let d ← c.describeRef type
  entity.requireFeature .copy
  entity.requireFeature .describe
  let written := stamped now (entity.withAttr "uuid" (.text uuid))
  let clause :=
    Clause.assignment nodeVariable "" skipNull (written.storedValues d.updatableFields)
  let statement ← Template.update.render (substitutions
    [("label", d.label.text), ("clause", clause.text),
      ("return", if fetch then "RETURN " ++ nodeVariable else "")])
  pure ⟨statement, .ofParameters (Assoc.set identifierKey (.text uuid) clause.parameters),
    if fetch then .node type else .nothing⟩

/-- Create or update the node with some properties. Three maps go into one statement: the
properties, the values for a new node, and the values for one that is there. -/
def merge (c : Catalog) (now : Float) (identifier : String) (onCreate onUpdate properties : Value) :
    Except Failure Request := do
  let type ← Argument.entity "entity_on_create" onCreate
  let updatedType ← Argument.entity "entity_on_update" onUpdate
  let properties ← Argument.properties "where" properties
  let d ← c.describeRef type
  let condition ← Clause.condition "" (d.translate properties)
  let created := Clause.assignment nodeVariable onCreatePrefix false
    (onCreate.storedValues d.settableFields)
  let createdText := joinClauses [created.text,
    nodeVariable ++ "." ++ identifierKey ++ "=$" ++ onCreatePrefix ++ identifierKey]
  onUpdate.requireFeature .copy
  onUpdate.requireFeature .describe
  let u ← c.describeRef updatedType
  let updated := Clause.assignment nodeVariable onMatchPrefix false
    ((stamped now onUpdate).storedValues u.updatableFields)
  let statement ← Template.merge.render (substitutions
    [("node", d.label.text), ("conditions", condition.text),
      ("on_create_clause", "ON CREATE SET " ++ createdText),
      ("on_match_clause", if updated.isEmpty then "" else "ON MATCH SET " ++ updated.text)])
  let parameters := Assoc.set (onCreatePrefix ++ identifierKey) (.text identifier)
    (Assoc.update condition.parameters created.parameters)
  pure ⟨statement, .ofParameters (Assoc.update parameters updated.parameters), .node type⟩

/-- Mark a live node as deleted. -/
def delete (c : Catalog) (now : Float) (type uuid : Value) : Except Failure Request := do
  let uuid ← Argument.uuid "uuid" uuid
  let (type, d) ← Argument.entityType c type
  let statement ← Template.delete.render (substitutions [("label", d.label.text)])
  pure ⟨statement, .ofParameters [(identifierKey, .text uuid), (updatedAtKey, .float now)],
    .node type⟩

/-- Remove a node. -/
def drop (c : Catalog) (type uuid : Value) : Except Failure Request := do
  let uuid ← Argument.uuid "uuid" uuid
  let d ← c.describe type
  let statement ← Template.drop.render (substitutions [("label", d.label.text)])
  pure ⟨statement, .ofParameters [(identifierKey, .text uuid)], .droppedOne⟩

/-- Remove all nodes with some properties. -/
def dropByProperties (c : Catalog) (type properties : Value) : Except Failure Request := do
  let properties ← Argument.properties "properties" properties
  let d ← c.describe type
  let clause ← Clause.condition "" (d.translate properties)
  let statement ← Template.dropByProperties.render
    (substitutions [("label", d.label.text), ("clause", clause.text)])
  pure ⟨statement, .ofParameters clause.parameters, .droppedCount⟩

/-- The statement that reads live nodes by one property. -/
def nodesByProperty (label property : String) : Except Failure String :=
  Template.getByProperty.render (substitutions
    [("label", label), ("property", property), ("relationship", ""), ("relatedNode", ""),
      ("result", nodeVariable)])

/-- Read the live nodes with a value of one property, named as an attribute or as a
property. -/
def getByProperty (c : Catalog) (type name value : Value) : Except Failure Request := do
  let name ← Argument.propertyName name
  let value ← Argument.propertyValue value
  let (type, d) ← Argument.entityType c type
  let property ← Identifier.require (d.graphKey (.text name)) "property key"
  let statement ← nodesByProperty d.label.text property.text
  pure ⟨statement, .ofParameters [("value", value)], .nodesWithRelated type⟩

/-- Read the live nodes with some properties. -/
def getByProperties (c : Catalog) (type properties : Value) : Except Failure Request := do
  let properties ← Argument.properties "properties" properties
  let (type, d) ← Argument.entityType c type
  let clause ← Clause.condition "" (d.translate properties)
  let statement ← Template.getByProperties.render (substitutions
    [("label", d.label.text), ("clause", clause.text), ("relationship", ""),
      ("relatedNode", ""), ("result", nodeVariable)])
  pure ⟨statement, .ofParameters clause.parameters, .nodesWithRelated type⟩

/-- Read all live nodes of a type. -/
def getAll (c : Catalog) (type : Value) : Except Failure Request := do
  let (type, d) ← Argument.entityType c type
  let statement ← Template.getAll.render
    (substitutions [("label", d.label.text), ("result", nodeVariable)])
  pure ⟨statement, .ofParameters [], .nodesWithRelated type⟩

/-- Read a live node by its identifier. -/
def getByUuid (c : Catalog) (type uuid : Value) : Except Failure Request := do
  let uuid ← Argument.uuid "uuid" uuid
  let (type, d) ← Argument.entityType c type
  let statement ← nodesByProperty d.label.text identifierKey
  pure ⟨statement, .ofParameters [("value", .text uuid)], .nodeWithRelated type⟩

/-! ### Edges and labels -/

/-- The substitutions for the edge of a relationship. -/
def edgeSubstitutions (r : Relationship) : List (String × String) :=
  [("fromPartDirection", r.fromPart), ("toPartDirection", r.toPart),
    ("relationshipName", r.name.text)]

/-- The condition for the properties of an edge; anything empty stands for none. -/
def edgeClause (properties : Value) : Except Failure Clause :=
  if !properties.truthy then Clause.condition relationshipPrefix []
  else match properties.entries? with
    | some entries => Clause.condition relationshipPrefix entries
    | none => .error (.misuse .missingFeature)

/-- Link two nodes by an edge with some properties. -/
def createRelationship (fromUuid toUuid : Value) (r : Option Relationship) (properties : Value) :
    Except Failure Request := do
  let fromUuid ← Argument.uuid "uuid_from" fromUuid
  let toUuid ← Argument.uuid "uuid_to" toUuid
  let r ← Argument.relationship r
  let clause ← edgeClause properties
  let clauseText := if clause.isEmpty then "" else "\x7b" ++ clause.text ++ "\x7d"
  let statement ← Template.createRelationship.render
    (substitutions (edgeSubstitutions r ++ [("clause", clauseText)]))
  let parameters := Assoc.update [("uuidFrom", .text fromUuid), ("uuidTo", .text toUuid)]
    clause.parameters
  pure ⟨statement, .ofParameters parameters, .createdEdge⟩

/-- Link two nodes by an edge unless they are. -/
def mergeRelationship (fromUuid toUuid : Value) (r : Option Relationship) :
    Except Failure Request := do
  let fromUuid ← Argument.uuid "uuid_from" fromUuid
  let toUuid ← Argument.uuid "uuid_to" toUuid
  let r ← Argument.relationship r
  let statement ← Template.mergeRelationship.render (substitutions (edgeSubstitutions r))
  pure ⟨statement, .ofParameters [("uuidFrom", .text fromUuid), ("uuidTo", .text toUuid)],
    .createdEdge⟩

/-- Remove the edges between two nodes. -/
def dropRelationship (incomingUuid outgoingUuid : Value) (r : Option Relationship) :
    Except Failure Request := do
  let incomingUuid ← Argument.uuid "uuid_incoming" incomingUuid
  let outgoingUuid ← Argument.uuid "uuid_outgoing" outgoingUuid
  let r ← Argument.relationship r
  let statement ← Template.dropRelationship.render (substitutions (edgeSubstitutions r))
  let parameters : Parameters :=
    [("uuidIncoming", .text incomingUuid), ("uuidOutgoing", .text outgoingUuid)]
  pure ⟨statement, .ofParameters parameters, .droppedEdge⟩

/-- Add a label to a node. -/
def addLabel (uuid label : Value) : Except Failure Request := do
  let uuid ← Argument.uuid "uuid" uuid
  let label ← Argument.label label
  let label ← Identifier.require (.text label) "label"
  let statement ← Template.addLabel.render (substitutions [("label", label.text)])
  pure ⟨statement, .ofParameters [(identifierKey, .text uuid)], .addedLabel label.text uuid⟩

/-! ### Statements of the caller -/

/-- Run a statement of the caller. -/
def runQuery (query parameters : Value) : Except Failure Request := do
  let query ← Argument.query query
  pure ⟨query, parameters, .rows⟩

/-- Run a statement of the caller that reads nodes. -/
def runQueryAs (c : Catalog) (type query parameters : Value) : Except Failure Request := do
  let query ← Argument.query query
  let (type, _) ← Argument.entityType c type
  pure ⟨query, parameters, .nodes type⟩

end Request

/-- The request that an operation makes at the time `now`, with a fresh identifier at
hand. -/
def Operation.request (c : Catalog) (now : Float) (identifier : String) :
    Operation → Except Failure Request
  | add entity => Request.add c identifier entity
  | update entity uuid fetch => Request.update c now false entity uuid fetch
  | partialUpdate entity uuid fetch => Request.update c now true entity uuid fetch
  | merge onCreate onUpdate properties =>
    Request.merge c now identifier onCreate onUpdate properties
  | delete type uuid => Request.delete c now type uuid
  | drop type uuid => Request.drop c type uuid
  | dropByProperties type properties => Request.dropByProperties c type properties
  | getByProperty type name value => Request.getByProperty c type name value
  | getByProperties type properties => Request.getByProperties c type properties
  | getAll type => Request.getAll c type
  | getByUuid type uuid => Request.getByUuid c type uuid
  | createRelationship fromUuid toUuid r properties =>
    Request.createRelationship fromUuid toUuid r properties
  | mergeRelationship fromUuid toUuid r => Request.mergeRelationship fromUuid toUuid r
  | dropRelationship incomingUuid outgoingUuid r =>
    Request.dropRelationship incomingUuid outgoingUuid r
  | addLabel uuid label => Request.addLabel uuid label
  | runQuery query parameters => Request.runQuery query parameters
  | runQueryAs type query parameters => Request.runQueryAs c type query parameters

end GraphMapper
