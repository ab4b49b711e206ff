/-!
# Types that have a name

Declarations, values and messages all mention types by name: the plain types, the entity
types and the enumerations. An entity type is mentioned by a **reference**. A name may be
declared more than once, and a reference keeps to the declaration it was made for; only a
name that is not declared yet is left open, until a declaration of it comes.

Messages give names together with the module they belong to: declared types with that of
the application, the base type and the wrappers with their own, plain types with none.
-/

namespace GraphMapper

/-- The types that are not made of others. -/
inductive PlainType where
  /-- Texts. -/
  | text
  /-- Integers. -/
  | integer
  /-- Floats. -/
  | float
  /-- Truth values. -/
  | truth
  /-- Values of any kind. -/
  | anything
  /-- Objects of any kind. -/
  | object
  /-- Bytes. -/
  | bytes
  /-- Maps with any keys and values. -/
  | map
  /-- Lists with any items. -/
  | list
  /-- Sets with any items. -/
  | set
  /-- Tuples with any items. -/
  | tuple
  /-- Null alone. -/
  | null
  deriving DecidableEq, Repr

/-- All plain types. -/
def PlainType.all : List PlainType :=
  [text, integer, float, truth, anything, object, bytes, map, list, set, tuple, null]

theorem PlainType.mem_all (p : PlainType) : p ∈ PlainType.all := by cases p <;> decide

/-- The name of a plain type. -/
def PlainType.name : PlainType → String
  | text => "str"
  | integer => "int"
  | float => "float"
  | truth => "bool"
  | anything => "Any"
  | object => "object"
  | bytes => "bytes"
  | map => "dict"
  | list => "list"
  | set => "set"
  | tuple => "tuple"
  | null => "NoneType"

/-- The name of the base type that every entity type derives from. -/
def baseTypeName : String := "GraphEntity"

/-- A reference to an entity type. -/
inductive EntityRef where
  /-- The base type. -/
  | base
  /-- The type of one declaration: its number, counted from zero, and its name. -/
  | declared (number : Nat) (name : String)
  /-- The type of a name that is still to be declared. -/
  | pending (name : String)
  deriving DecidableEq, Repr

namespace EntityRef

/-- The name of the type. -/
def name : EntityRef → String
  | base => baseTypeName
  | declared _ name | pending name => name

/-- Whether the reference is to a type that is still to be declared. -/
def isPending : EntityRef → Bool
  | pending _ => true
  | _ => false

end EntityRef

/-- A type that has a name. -/
inductive NamedType where
  /-- A plain type. -/
  | plain (type : PlainType)
  /-- An entity type. -/
  | entity (type : EntityRef)
  /-- An enumeration. -/
  | enumeration (name : String)
  deriving DecidableEq, Repr

/-- The name of a named type. -/
def NamedType.name : NamedType → String
  | plain p => p.name
  | entity r => r.name
  | enumeration n => n

/-- The name of the kind a type is of, seen as a value. -/
def NamedType.kindName : NamedType → String
  | plain .anything => "_AnyMeta"
  | plain _ => "type"
  | entity _ => baseTypeName ++ "Meta"
  | enumeration _ => "EnumType"

/-! ### Names with modules -/

/-- The module of the application, to which the declared types belong. -/
def applicationModule : String := "app"

/-- The module the base type of all entity types belongs to. -/
def baseTypeModule : String := "neoclient.orm.entities"

/-- The module of the wrappers. -/
def wrapperModule : String := "typing"

/-- A name in a module. -/
def qualified (module name : String) : String := module ++ "." ++ name

/-- The name of an entity type with its module. -/
def EntityRef.qualifiedName (r : EntityRef) : String :=
  qualified (if r = .base then baseTypeModule else applicationModule) r.name

/-- The name of a plain type with its module. -/
def PlainType.qualifiedName : PlainType → String
  | anything => qualified wrapperModule anything.name
  | p => p.name

/-- The text of a type that stands alone: it is announced as a class or an enumeration. -/
def NamedType.written : NamedType → String
  | plain .anything => PlainType.anything.qualifiedName
  | plain p => "<class '" ++ p.name ++ "'>"
  | entity r => "<class '" ++ r.qualifiedName ++ "'>"
  | enumeration name => "<enum '" ++ name ++ "'>"

end GraphMapper
