import GraphMapper.Template

/-!
# The catalogue of statements

One template for each kind of operation on the graph. The node of interest is always bound
to the same variable, and so is a node found through a relationship.
-/

namespace GraphMapper

/-- The variable the node of interest is bound to. -/
def nodeVariable : String := "n"

/-- The variable a related node is bound to. -/
def relatedVariable : String := "rNode"

/-- The property that identifies a node. -/
def identifierKey : String := "Uuid"

/-- The property that marks a node as deleted. -/
def deletedKey : String := "IsDeleted"

/-- The property that holds the time of a node's last update. -/
def updatedAtKey : String := "UpdatedAt"

/-- The property that holds the time of a node's creation. -/
def createdAtKey : String := "CreatedAt"

namespace Template

/-- Create a node. -/
def create : Template :=
  ⟨"CREATE", "CREATE (n:@node\x7b@conditions\x7d) RETURN n"⟩

/-- Create a node, or update the one that is there. -/
def merge : Template :=
  ⟨"MERGE", "MERGE (n:@node\x7b@conditions\x7d) @on_create_clause @on_match_clause RETURN n"⟩

/-- Every live node of a label. -/
def getAll : Template :=
  ⟨"GET_ALL", "MATCH (n:@label\x7bIsDeleted:false\x7d) RETURN @result"⟩

/-- The live nodes with a given value of one property. -/
def getByProperty : Template :=
  ⟨"GET_BY_PROPERTY",
    "MATCH (n:@label\x7b@property:$value,IsDeleted:false\x7d)@relationship@relatedNode " ++
      "RETURN @result"⟩

/-- The live nodes with given values of several properties. -/
def getByProperties : Template :=
  ⟨"GET_BY_PROPERTIES",
    "MATCH (n:@label\x7b@clause,IsDeleted:false\x7d)@relationship@relatedNode RETURN @result"⟩

/-- Set properties of a live node. -/
def update : Template :=
  ⟨"UPDATE", "MATCH (n:@label\x7bUuid:$Uuid,IsDeleted:false\x7d) SET @clause @return"⟩

/-- Mark a live node as deleted. -/
def delete : Template :=
  ⟨"DELETE", "MATCH (n:@label\x7bUuid:$Uuid,IsDeleted:false\x7d) " ++
    "SET n.UpdatedAt=$UpdatedAt,n.IsDeleted=true RETURN n"⟩

/-- Remove a node for good. -/
def drop : Template :=
  ⟨"DROP", "MATCH (n:@label\x7bUuid:$Uuid\x7d) DETACH DELETE n"⟩

/-- Remove the nodes with given values of several properties. -/
def dropByProperties : Template :=
  ⟨"DROP_BY_PROPERTIES", "MATCH (n:@label\x7b@clause\x7d) DETACH DELETE n"⟩

/-- Create an edge between two nodes. -/
def createRelationship : Template :=
  ⟨"CREATE_RELATIONSHIP", "MATCH (from\x7bUuid:$uuidFrom\x7d),(to\x7bUuid:$uuidTo\x7d) " ++
    "CREATE (from)@fromPartDirection[r:@relationshipName@clause]@toPartDirection(to) RETURN r"⟩

/-- Create an edge between two nodes unless it is there. -/
def mergeRelationship : Template :=
  ⟨"MERGE_RELATIONSHIP", "MATCH (from\x7bUuid:$uuidFrom\x7d),(to\x7bUuid:$uuidTo\x7d) " ++
    "MERGE (from)@fromPartDirection[r:@relationshipName]@toPartDirection(to) RETURN r"⟩

/-- Delete the edges of one name and direction between two nodes. -/
def dropRelationship : Template :=
  ⟨"DROP_RELATIONSHIP",
    "MATCH (\x7bUuid:$uuidIncoming\x7d)@fromPartDirection[r:@relationshipName]@toPartDirection" ++
      "(\x7bUuid:$uuidOutgoing\x7d) DELETE r"⟩

/-- Add a label to a node. -/
def addLabel : Template :=
  ⟨"ADD_LABEL", "MATCH (n\x7bUuid:$Uuid\x7d) SET n:@label"⟩

/-- All templates, in catalogue order. -/
def catalogue : List Template :=
  [create, merge, getAll, getByProperty, getByProperties, update, delete, drop,
    dropByProperties, createRelationship, mergeRelationship, dropRelationship, addLabel]

/-- The catalogue's template of a name. -/
def named? (name : String) : Option Template := catalogue.find? (·.name = name)

end Template

end GraphMapper
