import GraphMapper.Value

/-!
# Type expressions

What a field of an entity type may hold is said by a **type expression**: a plain type, an
entity type by a reference, an enumeration, or one of these wrapped in collections, mappings
and unions. References may be to types that are still to be declared, so declarations may
refer to types that come later, and to themselves.

A union can be written as a wrapper around its members or with bars between them. Bars stand
between types that are there: `barred?` does not know what to make of a name that is still
to be declared.
-/

namespace GraphMapper

/-- The kinds of collection; each has items of one type. -/
inductive CollectionKind where
  /-- Lists. -/
  | list
  /-- Sets. -/
  | set
  /-- Frozen sets. -/
  | frozenSet
  /-- Sequences. -/
  | sequence
  /-- Anything to go through one by one. -/
  | iterable
  /-- Tuples of any length. -/
  | tuple
  /-- Lists, written with the name of the plain type. -/
  | plainList
  deriving DecidableEq, Repr

/-- The kinds of mapping. -/
inductive MappingKind where
  /-- Maps. -/
  | map
  /-- Mappings of any kind. -/
  | mapping
  deriving DecidableEq, Repr

/-- The wrappers that may be named without saying what is inside. -/
inductive BareKind where
  /-- Some list. -/
  | list
  /-- Some map. -/
  | map
  deriving DecidableEq, Repr

/-- The two ways to write a union. -/
inductive UnionForm where
  /-- As a wrapper around its members. -/
  | wrapped
  /-- With bars between its members. -/
  | barred
  deriving DecidableEq, Repr

/-- A type expression. -/
inductive TypeExpr where
  /-- A plain type. -/
  | plain (type : PlainType)
  /-- An entity type. -/
  | entity (type : EntityRef)
  /-- An enumeration: its name, and its members with their values. -/
  | enumeration (name : String) (members : List (String × Value))
  /-- A collection of items of one type. -/
  | collection (kind : CollectionKind) (item : TypeExpr)
  /-- A mapping from keys of one type to values of another. -/
  | mapping (kind : MappingKind) (key value : TypeExpr)
  /-- A wrapper that does not say what is inside. -/
  | bare (kind : BareKind)
  /-- Any of several members. -/
  | union (form : UnionForm) (members : List TypeExpr)
  deriving Inhabited

namespace TypeExpr

mutual

/-- Whether two expressions are the same. Unions are if they have the same members, however
they are written and in whatever order. Every mention of an enumeration makes one of its own. -/
def same : TypeExpr → TypeExpr → Bool
  | .plain p, other => match other with
    | .plain q => p = q
    | _ => false
  | .entity r, other => match other with
    | .entity s => r = s
    | _ => false
  | .enumeration _ _, _ => false
  | .collection kind item, other => match other with
    | .collection kind' item' => kind = kind' && same item item'
    | _ => false
  | .mapping kind key value, other => match other with
    | .mapping kind' key' value' => kind = kind' && same key key' && same value value'
    | _ => false
  | .bare kind, other => match other with
    | .bare kind' => kind = kind'
    | _ => false
  | .union _ members, other => match other with
    | .union _ members' => allAmong members members' && members'.all fun t => among members t
    | _ => false
termination_by structural t => t

/-- Whether an expression is the same as one of some others. -/
def among : List TypeExpr → TypeExpr → Bool
  | [], _ => false
  | t :: rest, other => same t other || among rest other
termination_by structural ts => ts

/-- Whether all of some expressions are the same as one of some others. -/
def allAmong : List TypeExpr → List TypeExpr → Bool
  | [], _ => true
  | t :: rest, others => others.any (fun other => same t other) && allAmong rest others
termination_by structural ts => ts

end

instance : BEq TypeExpr := ⟨same⟩

/-- Whether only null is of this type. -/
def isNull : TypeExpr → Bool
  | .plain .null => true
  | _ => false

/-- Whether the expression stands for a type that is there, without a wrapper around it; a
list with the name of the plain type counts as such, and so do types with bars between. -/
def isNamed : TypeExpr → Bool
  | .plain _ | .enumeration _ _ | .collection .plainList _ | .union .barred _ => true
  | .entity r => !r.isPending
  | _ => false

/-- Whether the expression is a wrapper around others. -/
def isWrapper : TypeExpr → Bool
  | .entity _ => false
  | t => !t.isNamed

/-- The members a type brings into a union: those of a union, or the type alone. -/
def unionMembers : TypeExpr → List TypeExpr
  | .union _ members => members
  | t => [t]

/-- The members of a union of some types: each once, where it first comes. -/
def distinctMembers (types : List TypeExpr) : List TypeExpr :=
  (types.flatMap unionMembers).eraseDups

/-- The union of some types in a form. One of a single member is that member. -/
def ofMembers (form : UnionForm) (types : List TypeExpr) : TypeExpr :=
  match distinctMembers types with
  | [t] => t
  | members => .union form members

/-- A type or null. -/
def optional (t : TypeExpr) : TypeExpr := ofMembers .wrapped [t, .plain .null]

/-- The union of some types, at least one. -/
def wrapped? (types : List TypeExpr) : Option TypeExpr :=
  if types.isEmpty then none else some (ofMembers .wrapped types)

/-- Two types with a bar between. Next to a wrapper the union is a wrapper too; otherwise
both types have to be there. -/
def bar? (left right : TypeExpr) : Option TypeExpr :=
  if left.isWrapper || right.isWrapper then some (ofMembers .wrapped [left, right])
  else if left.isNamed && right.isNamed then some (ofMembers .barred [left, right])
  else none

/-- Some types with bars between, at least one. -/
def barred? : List TypeExpr → Option TypeExpr
  | [] => none
  | t :: rest => rest.foldlM bar? t

mutual

/-- The entity types an expression refers to, from left to right. -/
def references : TypeExpr → List EntityRef
  | .entity r => [r]
  | .collection _ item => references item
  | .mapping _ key value => references key ++ references value
  | .union _ members => memberReferences members
  | .plain _ | .enumeration _ _ | .bare _ => []

/-- The entity types that members of a union refer to. -/
def memberReferences : List TypeExpr → List EntityRef
  | [] => []
  | t :: rest => references t ++ memberReferences rest

end

mutual

/-- The expression with its references replaced. -/
def bind (f : EntityRef → EntityRef) : TypeExpr → TypeExpr
  | .entity r => .entity (f r)
  | .collection kind item => .collection kind (bind f item)
  | .mapping kind key value => .mapping kind (bind f key) (bind f value)
  | .union form members => .union form (bindMembers f members)
  | .plain p => .plain p
  | .enumeration name members => .enumeration name members
  | .bare kind => .bare kind

/-- Members of a union with their references replaced. -/
def bindMembers (f : EntityRef → EntityRef) : List TypeExpr → List TypeExpr
  | [] => []
  | t :: rest => bind f t :: bindMembers f rest

end

end TypeExpr

end GraphMapper
