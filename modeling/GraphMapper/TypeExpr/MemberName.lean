import GraphMapper.TypeExpr

/-!
# Names for the members of a union

An issue with a member of a union is placed under the name of the member. The name of an
entity type is its own; that of a wrapper spells out what is inside, and that of a type
whose values are checked in several steps spells out the steps.
-/

namespace GraphMapper

/-- The name of a plain type as the member of a union. -/
def PlainType.memberName : PlainType → String
  | anything | object => "any"
  | map => "dict[any,any]"
  | list => "list[any]"
  | set => "set[any]"
  | tuple => "tuple[any, ...]"
  | null => "none"
  | p => p.name

namespace TypeExpr

/-- A wrapper around the names of its parts. -/
def around (wrapper : String) (parts : List String) : String :=
  wrapper ++ "[" ++ ",".intercalate parts ++ "]"

/-- The name of a sequence whose items have a name. Any item will do where a sequence only
has to be one. -/
def sequenceName (item : TypeExpr) (name : String) : String :=
  let check := around "is-instance" ["Sequence"]
  let steps := match item with
    | .plain .anything => check
    | _ => around "chain" [check, around "function-wrap" ["sequence_validator()"]]
  around "json-or-python" ["json=" ++ around "list" [name], "python=" ++ steps]

/-- The name of a union of named members, of which null is no member itself. -/
def unionName (nullable : Bool) (names : List String) : String :=
  let name := match names with
    | [name] => name
    | names => around "union" names
  if nullable then around "nullable" [name] else name

mutual

/-- The name of a type as the member of a union. -/
def memberName : TypeExpr → String
  | .plain p => p.memberName
  | .entity r => r.name
  | .enumeration name members =>
    if members.isEmpty then around "is-instance" [name]
    else around "function-after" ["operator.attrgetter('value')(), " ++ around "enum" [name]]
  | .collection kind item =>
    let name := memberName item
    match kind with
    | .list | .plainList => around "list" [name]
    | .set => around "set" [name]
    | .frozenSet => around "frozenset" [name]
    | .iterable => around "generator" [name]
    | .tuple => around "tuple" [name ++ ", ..."]
    | .sequence => sequenceName item name
  | .mapping _ key value => around "dict" [memberName key, memberName value]
  | .bare .list => PlainType.list.memberName
  | .bare .map => PlainType.map.memberName
  | .union _ members => unionName (members.any isNull) (memberNames members)

/-- The names of members other than null. -/
def memberNames : List TypeExpr → List String
  | [] => []
  | t :: rest => if t.isNull then memberNames rest else memberName t :: memberNames rest

end

end TypeExpr

end GraphMapper
