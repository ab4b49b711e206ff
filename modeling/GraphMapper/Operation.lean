import GraphMapper.Database

/-!
# Operations and requests

A client offers **operations** on the graph: creating, updating, reading and removing nodes,
and linking them. Each operation is one statement with its parameters, followed by a reading
of the result; together they are the **request** that the operation makes. A request is
worked out from the arguments, the declared types, the time and a fresh identifier, without
asking the database anything. So whatever is wrong with the arguments shows before anything
is sent.
-/

namespace GraphMapper

/-- An operation with its arguments, which have not been looked at yet. -/
inductive Operation where
  /-- Create a node from an entity. -/
  | add (entity : Value)
  /-- Overwrite the properties of a node, and fetch it if wanted. -/
  | update (entity uuid : Value) (fetch : Bool)
  /-- Overwrite those properties of a node for which there is a value. -/
  | partialUpdate (entity uuid : Value) (fetch : Bool)
  /-- Create or update the node with some properties. -/
  | merge (onCreate onUpdate properties : Value)
  /-- Mark a node as deleted. -/
  | delete (type uuid : Value)
  /-- Remove a node. -/
  | drop (type uuid : Value)
  /-- Remove all nodes with some properties. -/
  | dropByProperties (type properties : Value)
  /-- Read the nodes with a value of one property. -/
  | getByProperty (type name value : Value)
  /-- Read the nodes with some properties. -/
  | getByProperties (type properties : Value)
  /-- Read all nodes of a type. -/
  | getAll (type : Value)
  /-- Read a node by its identifier. -/
  | getByUuid (type uuid : Value)
  /-- Link two nodes by an edge, which may have properties. -/
  | createRelationship (fromUuid toUuid : Value) (relationship : Option Relationship)
      (properties : Value)
  /-- Link two nodes by an edge unless they are. -/
  | mergeRelationship (fromUuid toUuid : Value) (relationship : Option Relationship)
  /-- Remove the edges between two nodes. -/
  | dropRelationship (incomingUuid outgoingUuid : Value) (relationship : Option Relationship)
  /-- Add a label to a node. -/
  | addLabel (uuid label : Value)
  /-- Run a statement of the caller. -/
  | runQuery (query parameters : Value)
  /-- Run a statement of the caller that reads nodes. -/
  | runQueryAs (type query parameters : Value)

/-- Whether an operation gives a node a fresh identifier. -/
def Operation.needsIdentifier : Operation → Bool
  | add _ | merge _ _ _ => true
  | _ => false

/-- What is made of the result of a statement. -/
inductive Reading where
  /-- The node created with an identifier, as an entity; a failure if none was created. -/
  | createdNode (type : EntityRef) (label identifier : String)
  /-- The node, as an entity, if there is one. -/
  | node (type : EntityRef)
  /-- The node with its related nodes, as an entity, if there is one. -/
  | nodeWithRelated (type : EntityRef)
  /-- All nodes with their related nodes, as entities. -/
  | nodesWithRelated (type : EntityRef)
  /-- All nodes, as entities. -/
  | nodes (type : EntityRef)
  /-- All rows, as maps. -/
  | rows
  /-- Nothing. -/
  | nothing
  /-- Whether the first value is one. -/
  | isOne
  /-- Whether exactly one node was removed. -/
  | droppedOne
  /-- How many nodes were removed. -/
  | droppedCount
  /-- Whether an edge was created. -/
  | createdEdge
  /-- Whether an edge was removed. -/
  | droppedEdge
  /-- That a label was added to a node; a failure if not. -/
  | addedLabel (label uuid : String)
  deriving DecidableEq, Repr

/-- A statement, its parameters, and what is made of the result. -/
structure Request where
  /-- The statement. -/
  statement : String
  /-- Its parameters: values by name, unless the caller gave something else. -/
  parameters : Value
  /-- What is made of the result. -/
  reading : Reading

/-- The request that only finds out whether the database answers. -/
def Request.ping : Request := ⟨"RETURN 1", .null, .isOne⟩

end GraphMapper
