import GraphMapper.TypeExpr
import GraphMapper.Value.Display

/-!
# The text of a type expression

A configuration problem quotes the type expression of the field it is about. A type that
stands alone is announced as a class or an enumeration; inside a wrapper its name is enough.
-/

namespace GraphMapper

/-- The name of the wrapper for a kind of collection. -/
def CollectionKind.written : CollectionKind → String
  | list => qualified wrapperModule "List"
  | set => qualified wrapperModule "Set"
  | frozenSet => qualified wrapperModule "FrozenSet"
  | sequence => qualified wrapperModule "Sequence"
  | iterable => qualified wrapperModule "Iterable"
  | tuple => qualified wrapperModule "Tuple"
  | plainList => PlainType.list.name

/-- The name of the wrapper for a kind of mapping. -/
def MappingKind.written : MappingKind → String
  | map => qualified wrapperModule "Dict"
  | mapping => qualified wrapperModule "Mapping"

/-- The name of a wrapper that does not say what is inside. -/
def BareKind.written : BareKind → String
  | list => qualified wrapperModule "List"
  | map => qualified wrapperModule "Dict"

namespace TypeExpr

/-- A wrapper around some parts. -/
def wrapped (wrapper : String) (parts : List String) : String :=
  wrapper ++ "[" ++ Value.commaSeparated parts ++ "]"

/-- The text of a wrapped union: one of two members that allows null is written as the
other member made optional. -/
def wrappedUnion (members : List TypeExpr) (names : List String) : String :=
  match members, names with
  | [a, b], [s, t] =>
    if a.isNull then wrapped (qualified wrapperModule "Optional") [t]
    else if b.isNull then wrapped (qualified wrapperModule "Optional") [s]
    else wrapped (qualified wrapperModule "Union") names
  | _, _ => wrapped (qualified wrapperModule "Union") names

mutual

/-- The text of a type expression inside another. -/
def innerText : TypeExpr → String
  | .plain p => p.qualifiedName
  | .entity r => r.qualifiedName
  | .enumeration name _ => qualified applicationModule name
  | .collection .tuple item => wrapped CollectionKind.tuple.written [innerText item, "..."]
  | .collection kind item => wrapped kind.written [innerText item]
  | .mapping kind key value => wrapped kind.written [innerText key, innerText value]
  | .bare kind => kind.written
  | .union .wrapped members => wrappedUnion members (memberTexts members)
  | .union .barred members => " | ".intercalate (barredTexts members)

/-- The texts of the members of a wrapped union. -/
def memberTexts : List TypeExpr → List String
  | [] => []
  | t :: rest => innerText t :: memberTexts rest

/-- The texts of members with bars between them; null is written as a value. -/
def barredTexts : List TypeExpr → List String
  | [] => []
  | t :: rest =>
    (if t.isNull then Value.null.written else innerText t) :: barredTexts rest

end

/-- The text of a type expression. -/
def written : TypeExpr → String
  | .plain p => (NamedType.plain p).written
  | .entity r => (NamedType.entity r).written
  | .enumeration name _ => (NamedType.enumeration name).written
  | t => t.innerText

end TypeExpr

end GraphMapper
