import GraphMapper.Template.Catalogue

/-!
# Relationships

An entity type **declares** relationships: edges of one name, in one direction as seen from
the declaring node. In a statement the declaring node always stands on the left, so that an
edge that comes in is written with its arrow head on the left, and one that goes out with
its arrow head on the right. `Relationship.pattern` is what stands between the two nodes.
-/

namespace GraphMapper

/-- The direction of an edge, as seen from the node that declares it. -/
inductive Direction where
  /-- The edge comes in. -/
  | incoming
  /-- The edge goes out. -/
  | outgoing
  deriving DecidableEq, Repr

namespace Direction

/-- The word for a direction. -/
def word : Direction → String
  | incoming => "INCOMING"
  | outgoing => "OUTGOING"

/-- The direction a word stands for. -/
def ofWord? (s : String) : Option Direction :=
  if s = incoming.word then some incoming
  else if s = outgoing.word then some outgoing
  else none

theorem ofWord?_word (d : Direction) : ofWord? d.word = some d := by cases d <;> rfl

end Direction

/-- A relationship: the name of an edge, and its direction. -/
structure Relationship where
  /-- The name of the edge. -/
  name : Identifier
  /-- Its direction, as seen from the declaring node. -/
  direction : Direction
  deriving DecidableEq

namespace Relationship

/-- The relationship with a name and a direction given as values. The name is looked at
first; an edge comes in unless a direction is given. -/
def ofValues (name : Value) (direction : Option Value) : Except Failure Relationship := do
  let name ← Identifier.require name "relationship name"
  match direction with
  | none => pure ⟨name, .incoming⟩
  | some d => match d.text?.bind Direction.ofWord? with
    | some direction => pure ⟨name, direction⟩
    | none => throw (.invalidDirection d)

/-- The piece of arrow next to the declaring node. -/
def fromPart (r : Relationship) : String :=
  match r.direction with
  | .incoming => "<-"
  | .outgoing => "-"

/-- The piece of arrow next to the other node. -/
def toPart (r : Relationship) : String :=
  match r.direction with
  | .incoming => "-"
  | .outgoing => "->"

/-- The edge as it stands between the declaring node and the other one. -/
def pattern (r : Relationship) : String :=
  r.fromPart ++ "[r:" ++ r.name.text ++ "]" ++ r.toPart

/-- A live node of a label, found through a relationship. -/
def relatedNodePattern (label : String) : String :=
  "(" ++ relatedVariable ++ ":" ++ label ++ "\x7b" ++ deletedKey ++ ":false\x7d)"

end Relationship

end GraphMapper
