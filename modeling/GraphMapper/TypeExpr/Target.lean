import GraphMapper.TypeExpr

/-!
# What a relationship field leads to

The type expression of a relationship field names the entity type at the other end, and
tells whether there may be several. `TypeExpr.target` finds both by taking wrappers off: a
union with a single member other than null, and a collection. It stops at a named type, and
with no type at all where there is nothing left to take off.
-/

namespace GraphMapper

/-- Where a type expression leads. -/
structure Target where
  /-- The type it names inside its wrappers, if there is one. -/
  type? : Option NamedType
  /-- Whether a collection was among the wrappers. -/
  many : Bool
  deriving DecidableEq, Repr

namespace TypeExpr

/-- How many members of a union are other than null. -/
def countOthers (members : List TypeExpr) : Nat := members.countP (!·.isNull)

mutual

/-- Where an expression leads when its wrappers are taken off. -/
def target : TypeExpr → Target
  | .plain p => ⟨some (.plain p), false⟩
  | .entity r => ⟨some (.entity r), false⟩
  | .enumeration name _ => ⟨some (.enumeration name), false⟩
  | .collection _ item => ⟨(target item).type?, true⟩
  | .bare .list => ⟨none, true⟩
  | .mapping _ _ _ | .bare .map => ⟨none, false⟩
  | .union _ members => if countOthers members = 1 then firstOther members else ⟨none, false⟩

/-- Where the first member other than null leads. -/
def firstOther : List TypeExpr → Target
  | [] => ⟨none, false⟩
  | t :: rest => if t.isNull then firstOther rest else target t

end

end TypeExpr

end GraphMapper
