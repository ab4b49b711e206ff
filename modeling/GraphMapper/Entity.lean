import GraphMapper.Descriptor
import GraphMapper.Validation.Accept

/-!
# Entities

An **entity** is an instance of an entity type. It is made by validating a map against the
fields of the type, and from then on it changes by assignments to single attributes, each of
which is validated like the field it goes to. So an entity holds values that its type accepts,
or defaults – as long as nobody goes behind its back: there are names under which its type and
its attributes as a whole are exchanged, and nothing is validated then.

Entities nest: a map given for a field of an entity type becomes an entity in its turn. A
map inside a map is less deep than the map around it, which bounds the nesting. There is a
limit besides: instances of types that are referred to more than once may only be nested so
and so deeply.
-/

namespace GraphMapper

open Checked

namespace Field

/-- The value given for a field, with the name it was found under. -/
def input? (f : Field) (entries : Entries) : Option (String × Value) :=
  f.inputNames.findSome? fun n => (entries.lookup (.text n)).map fun v => (n, v)

/-- What a field holds when nothing is given, at the time `now`. -/
def filled (f : Field) (now : Float) : Checked Value :=
  match f.default with
  | .required => (complain .missing).under (.key f.inputName)
  | .value v => .ok v
  | .emptyList => .ok (.list [])
  | .currentTime => .ok (.float now)

/-- What a field makes of a value given for it. -/
def accept (asEntity : EntityRef → Value → Checked Accepted) (f : Field) (v : Value) :
    Checked Accepted :=
  f.type.acceptWithin asEntity f.bounds v

/-- What a field holds when made from a map. Defaults are taken as they are. -/
def made (asEntity : EntityRef → Value → Checked Accepted) (now : Float) (entries : Entries)
    (f : Field) : Checked Accepted :=
  match f.input? entries with
  | some (name, v) => (f.accept asEntity v).under (.key name)
  | none => (f.filled now).map .exactly

end Field

/-! ### Nesting -/

/-- How deeply instances are nested. -/
structure Nesting where
  /-- The types whose instances count. -/
  counted : List EntityRef
  /-- How many such instances there are around. -/
  around : Nat := 0

namespace Nesting

/-- How many instances may be around each other. -/
def limit : Nat := 255

/-- The nesting inside one more instance, unless there are too many already. -/
def inside? (n : Nesting) (r : EntityRef) : Option Nesting :=
  if !n.counted.contains r then some n
  else if n.around < limit then some { n with around := n.around + 1 }
  else none

end Nesting

/-- The nesting outside an instance of a type: those types count that are met more than once
on the way from this one. -/
def Catalog.nesting (c : Catalog) (r : EntityRef) : Nesting :=
  let met := c.referencesFrom r
  { counted := met.filter fun r => 1 < met.count r }

/-! ### Making instances -/

namespace Catalog

/-- The attributes of an instance with some fields, made from a map. -/
def attributesOf (asEntity : EntityRef → Value → Checked Accepted) (now : Float)
    (fields : List Field) (entries : Entries) : Checked (List (String × Accepted)) :=
  gather (fields.map fun f => (f.made asEntity now entries).map fun a => (f.name, a))

/-- An instance with some attributes, made from a map. The fields given to it count, and so
do those given to instances inside it. -/
def instanceOf (r : EntityRef) (fields : List Field) (entries : Entries)
    (attributes : List (String × Accepted)) : Accepted :=
  let given := fields.countP fun f => (f.input? entries).isSome
  let inner := attributes.foldr (fun a n => a.2.fit.given.getD 0 + n) 0
  { value := .entity r (attributes.map fun a => (a.1, a.2.value))
    fit := { closeness := .read, given := some (given + inner) } }

/-- What an entity type makes of a value: an instance of it stays as it is, be it one of a type
that extends it, and a mapping is made into one. `make` makes an instance from a map. -/
def acceptEntity (c : Catalog) (make : Nesting → EntityRef → Entries → Checked Accepted)
    (n : Nesting) (r : EntityRef) (v : Value) : Checked Accepted :=
  let r := c.resolve r
  match n.inside? r with
  | none => complain .tooDeep
  | some n => match v with
    | .entity s _ => if c.derives s r then .ok (.exactly v) else complain .notInstance
    | .map entries | .node entries => make n r entries
    | _ => complain .notInstance

/-- An instance of a type, made at the time `now` from a map that is not nested more deeply
than said. -/
def make (c : Catalog) (now : Float) : Nat → Nesting → EntityRef → Entries → Checked Accepted
  | 0, _, _, _ => complain .notInstance
  | depth + 1, n, r, entries =>
    let fields := c.fieldsOf r
    (attributesOf (c.acceptEntity (c.make now depth) n) now fields entries).map
      (instanceOf r fields entries)

/-- What a type makes of a value at the time `now`. -/
def acceptAt (c : Catalog) (now : Float) (n : Nesting) (r : EntityRef) (v : Value) :
    Checked Accepted :=
  c.acceptEntity (c.make now v.depth) n r v

/-- An instance made from a map. All that the type refers to has to be declared; if it is
not, what is reported missing is what was when the type was declared. -/
def construct (c : Catalog) (now : Float) (r : EntityRef) (entries : Entries) :
    Except Failure Value :=
  match c.unresolved? r with
  | some missing =>
    .error (.misuse (.incompleteType r.name (((c.asOf r).unresolved? r).getD missing)))
  | none =>
    if c.isSuited r then
      ((c.acceptAt now (c.nesting (c.resolve r)) r (.map entries)).map (·.value)).mapError
        Refusal.toFailure
    else .error (.misuse .malformedBound)

/-! ### Assigning to attributes -/

/-- The names of what an instance shares with its type or works out by itself; nothing can
be assigned to them. -/
def fixedNames : List String :=
  ["_entity_config", "_entity_registry", "model_extra", "model_fields_set", "__fields_set__",
    "__weakref__"]

/-- The name under which an instance keeps its type. -/
def typeName : String := "__class__"

/-- The name under which an instance keeps its attributes. -/
def attributesName : String := "__dict__"

/-- The names under which an instance keeps what it consists of, and what it needs to validate
assignments. Whoever assigns to one of them is on his own: this is not validated, and what
comes of later assignments is not said here. -/
def structuralNames : List String :=
  [typeName, attributesName, "__pydantic_extra__", "__pydantic_fields_set__",
    "__pydantic_setattr_handlers__", "__pydantic_validator__", "_setattr_handler"]

/-- The attributes of an instance with a value assigned to one. An attribute that keeps the
value it was made with refuses; so does a name that is no attribute, an alias among them.
Other names with an underscore in front are not looked after. -/
def assignTo (c : Catalog) (now : Float) (r : EntityRef) (attributes : List (String × Value))
    (name : String) (v : Value) : Except Failure (List (String × Value)) :=
  if fixedNames.contains name then .error (.misuse .missingFeature)
  else if name.toList.head? = some '_' then .ok attributes
  else match (c.fieldsOf r).find? (·.name = name) with
    | none => .error (.validation [⟨[.key name], .unknownAttribute⟩])
    | some f =>
      if f.frozen then .error (.validation [⟨[.key name], .frozen⟩])
      else
        let nesting := c.nesting (c.resolve r)
        let inside := (nesting.inside? (c.resolve r)).getD nesting
        match (f.accept (c.acceptAt now inside) v).under (.key name) with
        | .ok accepted => .ok (Assoc.set name accepted.value attributes)
        | .error refusal => .error refusal.toFailure

/-- An entity with a value assigned under a name. Its type is exchanged for another one as it
is, and so are its attributes for the entries of a map. -/
def assign (c : Catalog) (now : Float) (entity : Value) (name : String) (v : Value) :
    Except Failure Value :=
  match entity with
  | .entity r attributes =>
    if name = typeName then match v with
      | .type (.entity s) => .ok (.entity (c.resolve s) attributes)
      | _ => .error (.misuse .wrongKind)
    else if name = attributesName then match v with
      | .map entries => .ok (.entity r (Value.toNames entries))
      | _ => .error (.misuse .wrongKind)
    else (c.assignTo now r attributes name v).map (.entity r)
  | _ => .error (.misuse .missingFeature)

end Catalog

namespace Value

/-- The value of an attribute of an entity. -/
def attr? (v : Value) (name : String) : Option Value :=
  match v with
  | .entity _ attributes => attributes.lookup name
  | _ => none

/-- The value of an attribute of an entity, null if it has none of this name. -/
def attr (v : Value) (name : String) : Value := (v.attr? name).getD .null

/-- An entity with an attribute replaced without validation. -/
def withAttr (v : Value) (name : String) (value : Value) : Value :=
  match v with
  | .entity r attributes => .entity r (Assoc.set name value attributes)
  | _ => v

/-- The type of an entity. -/
def entityType? : Value → Option EntityRef
  | .entity r _ => some r
  | _ => none

end Value

end GraphMapper
