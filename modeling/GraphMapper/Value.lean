import GraphMapper.Assoc
import GraphMapper.Decimal.Dyadic
import GraphMapper.NamedType

/-!
# Values

A graph database stores and returns dynamic values, and callers pass them in: property
values, keys of property maps, labels, whole nodes. `Value` is their common type.

Three kinds of value carry entries. A **map** and a **node** are mappings; an **itemized**
object can list its entries but is no mapping. A node has no property that is null. An
**entity** is an instance of a declared type, and a **type** is a value too, so that it can
be passed where an instance is wanted and be refused there. An **iterator** goes through
another value when it is asked to, and no two of them are equal.

Truth values, integers and floats are told apart, yet compare as numbers: `true`, `1` and
`1.0` are one key of a map. Maps are equal if they hold equal values under equal keys; the
order of their entries does not count.
-/

namespace GraphMapper

/-- A dynamic value. -/
inductive Value where
  /-- No value. -/
  | null
  /-- A truth value. -/
  | bool (b : Bool)
  /-- An integer of any size. -/
  | int (i : Int)
  /-- A double-precision number. -/
  | float (x : Float)
  /-- A text. -/
  | text (s : String)
  /-- A list. -/
  | list (items : List Value)
  /-- A map, its entries in order. -/
  | map (entries : List (Value × Value))
  /-- A node of the graph, with its properties. -/
  | node (entries : List (Value × Value))
  /-- An object that lists entries without being a mapping. -/
  | itemized (entries : List (Value × Value))
  /-- An instance of a declared type, with the values of its attributes. -/
  | entity (type : EntityRef) (attributes : List (String × Value))
  /-- A type. -/
  | type (named : NamedType)
  /-- An iterator over a value, which looks at its items only when they are asked for. -/
  | iterator (source : Value)
  deriving Inhabited

/-- A property map: keys of any kind, in order. -/
abbrev Entries := List (Value × Value)

namespace Value

/-! ### Comparing -/

/-- The integer a value is equal to when compared as a number. -/
def whole? : Value → Option Int
  | .bool b => some (if b then 1 else 0)
  | .int i => some i
  | .float x => Decimal.wholeFloat? x
  | _ => none

mutual

/-- Whether a value is equal to another, numbers being compared across kinds. -/
def equal : Value → Value → Bool
  | .null, other => match other with
    | .null => true
    | _ => false
  | .bool b, other => other.whole? == some (if b then 1 else 0)
  | .int i, other => other.whole? == some i
  | .float x, other => match other with
    | .float y => x == y
    | _ => (Decimal.wholeFloat? x).isSome && other.whole? == Decimal.wholeFloat? x
  | .text s, other => match other with
    | .text t => s == t
    | _ => false
  | .list xs, other => match other with
    | .list ys => equalItems xs ys
    | _ => false
  | .map xs, other => match other with
    | .map ys => xs.length == ys.length && equalEntries xs ys
    | _ => false
  | .node xs, other => match other with
    | .node ys => xs.length == ys.length && equalEntries xs ys
    | _ => false
  | .itemized xs, other => match other with
    | .itemized ys => xs.length == ys.length && equalEntries xs ys
    | _ => false
  | .entity r xs, other => match other with
    | .entity s ys => r = s && equalAttributes xs ys
    | _ => false
  | .type n, other => match other with
    | .type m => n = m
    | _ => false
  | .iterator _, _ => false
termination_by structural v => v

/-- Whether a list holds items equal to those of another. -/
def equalItems : List Value → List Value → Bool
  | [], others => others.isEmpty
  | x :: xs, others => match others with
    | [] => false
    | y :: ys => equal x y && equalItems xs ys
termination_by structural xs => xs

/-- Whether all entries of a map have an equal among those of another. -/
def equalEntries : List (Value × Value) → List (Value × Value) → Bool
  | [], _ => true
  | (k, x) :: xs, others =>
    others.any (fun e => equal k e.1 && equal x e.2) && equalEntries xs others
termination_by structural xs => xs

/-- Whether an instance holds attributes equal to those of another. -/
def equalAttributes : List (String × Value) → List (String × Value) → Bool
  | [], others => others.isEmpty
  | (n, x) :: xs, others => match others with
    | [] => false
    | (m, y) :: ys => n == m && equal x y && equalAttributes xs ys
termination_by structural xs => xs

end

instance : BEq Value := ⟨equal⟩

/-! ### Kinds -/

/-- Whether a value counts as present where emptiness is tested: not null, false, zero, or
without characters, items or entries. -/
def truthy : Value → Bool
  | .null => false
  | .bool b => b
  | .int i => i != 0
  | .float x => x != 0.0
  | .text s => s != ""
  | .list items => !items.isEmpty
  | .map entries | .node entries => !entries.isEmpty
  | .itemized _ | .entity _ _ | .type _ | .iterator _ => true

/-- Whether a value is null. -/
def isNull : Value → Bool
  | .null => true
  | _ => false

/-- The name of the type a value has. -/
def kindName : Value → String
  | .null => "NoneType"
  | .bool _ => "bool"
  | .int _ => "int"
  | .float _ => "float"
  | .text _ => "str"
  | .list _ => "list"
  | .map _ => "dict"
  | .node _ => "Node"
  | .itemized _ => "object"
  | .entity r _ => r.name
  | .type t => t.kindName
  | .iterator _ => "ValidatorIterator"

/-- The text a value is, if it is one. -/
def text? : Value → Option String
  | .text s => some s
  | _ => none

/-- The entries of a mapping. -/
def mapping? : Value → Option Entries
  | .map entries | .node entries => some entries
  | _ => none

/-- The entries of anything that lists some. -/
def entries? : Value → Option Entries
  | .map entries | .node entries | .itemized entries => some entries
  | _ => none

/-- What a value yields when gone through one by one: the items of a list, the characters of
a text, the keys of a mapping. -/
def elements? : Value → Option (List Value)
  | .list items => some items
  | .text s => some (s.toList.map fun c => .text (String.ofList [c]))
  | .map entries | .node entries => some (entries.map Prod.fst)
  | _ => none

/-- Whether a value can be gone through one by one at all. -/
def isIterable : Value → Bool
  | .text _ | .list _ | .map _ | .node _ | .entity _ _ | .iterator _ => true
  | .type (.enumeration _) => true
  | _ => false

/-- How many characters, items or entries a value has, if it is of a kind that has any. -/
def size? : Value → Option Nat
  | .text s => some s.length
  | .list items => some items.length
  | .map entries | .node entries => some entries.length
  | _ => none

/-- Whether a value can be the key of a map. -/
def isKey : Value → Bool
  | .list _ | .map _ | .entity _ _ => false
  | _ => true

/-- The map of a list of entries, later ones prevailing. -/
def ofEntries (entries : Entries) : Value := .map (Assoc.ofEntries entries)

/-- The node with the properties of a list of entries, later ones prevailing and nulls left
out. -/
def ofProperties (entries : Entries) : Value :=
  .node ((Assoc.ofEntries entries).filter fun e => !e.2.isNull)

/-- A property map from names and values. -/
def ofNames (entries : List (String × Value)) : Entries :=
  entries.map fun e => (.text e.1, e.2)

/-- The names and values in a property map, keys that are no texts being left out. -/
def toNames (entries : Entries) : List (String × Value) :=
  entries.filterMap fun e => e.1.text?.map fun name => (name, e.2)

/-! ### Depth -/

mutual

/-- How deeply maps and lists are nested in a value. -/
def depth : Value → Nat
  | .list items => itemsDepth items + 1
  | .map entries | .node entries | .itemized entries => entriesDepth entries + 1
  | _ => 0

/-- The greatest depth among items. -/
def itemsDepth : List Value → Nat
  | [] => 0
  | v :: rest => max v.depth (itemsDepth rest)

/-- The greatest depth among the keys and the values of entries. -/
def entriesDepth : List (Value × Value) → Nat
  | [] => 0
  | (k, v) :: rest => max (max k.depth v.depth) (entriesDepth rest)

end

end Value

end GraphMapper
