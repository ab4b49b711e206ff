import GraphMapper.Node

/-!
# Clauses

A clause is a piece of a statement that binds parameters: a **condition** lists properties
with the values they must have, an **assignment** those they shall get. Properties are
named in the text; values only appear as parameters, whose names are those of the
properties with a prefix in front. The prefix keeps the parameters of several clauses of one
statement apart.
-/

namespace GraphMapper

/-- What stands between the parts of a clause. -/
def clauseSeparator : String := ","

/-- Fragments of clauses joined into one, empty ones left out. -/
def joinClauses (fragments : List String) : String :=
  clauseSeparator.intercalate (fragments.filter (· ≠ ""))

/-- A property bound to a parameter, and the value of the parameter. -/
structure Binding where
  /-- The property. -/
  key : String
  /-- The name of the parameter. -/
  parameter : String
  /-- The value. -/
  value : Value

/-- What a clause says about the properties it names. -/
inductive ClauseForm where
  /-- They have the given values. -/
  | condition
  /-- Those of the node bound to a variable get the given values. -/
  | assignment (node : String)
  deriving DecidableEq, Repr

/-- A clause. -/
structure Clause where
  /-- What it says. -/
  form : ClauseForm
  /-- What it binds, in order. -/
  bindings : List Binding

namespace Binding

/-- The binding of a property to the parameter with a prefix. -/
def ofEntry (paramPrefix key : String) (value : Value) : Binding :=
  ⟨key, paramPrefix ++ key, value⟩

/-- The text of a binding. -/
def text (b : Binding) : ClauseForm → String
  | .condition => b.key ++ ":$" ++ b.parameter
  | .assignment node => node ++ "." ++ b.key ++ "=$" ++ b.parameter

end Binding

namespace Clause

/-- The text of a clause. -/
def text (c : Clause) : String :=
  clauseSeparator.intercalate (c.bindings.map (·.text c.form))

/-- The parameters a clause binds. -/
def parameters (c : Clause) : Parameters :=
  Assoc.ofEntries (c.bindings.map fun b => (b.parameter, b.value))

/-- Whether a clause says nothing. -/
def isEmpty (c : Clause) : Bool := c.bindings.isEmpty

/-- The condition that properties have given values. Every property has to be an
identifier. -/
def condition (paramPrefix : String) (properties : Entries) : Except Failure Clause := do
  let bindings ← properties.mapM fun e => do
    let key ← Identifier.require e.1 "property key"
    pure (Binding.ofEntry paramPrefix key.text e.2)
  pure ⟨.condition, bindings⟩

/-- The assignment of values to properties of the node bound to a variable; nulls can be
left out. -/
def assignment (node paramPrefix : String) (skipNull : Bool) (values : Parameters) : Clause :=
  let kept := if skipNull then values.filter (!·.2.isNull) else values
  ⟨.assignment node, kept.map fun e => Binding.ofEntry paramPrefix e.1 e.2⟩

end Clause

/-! ### Clauses over entities -/

/-- A choice of fields of a descriptor. -/
inductive FieldChoice where
  /-- All fields. -/
  | all
  /-- Those that are stored. -/
  | persistable
  /-- Those whose values a caller gives. -/
  | settable
  /-- Those that an update writes. -/
  | updatable
  /-- Those loaded through an edge. -/
  | relationship
  /-- The fields of some attributes, in the order given. -/
  | named (names : List String)
  deriving DecidableEq, Repr

/-- The chosen fields; names of no field are left out. -/
def Descriptor.choose (d : Descriptor) : FieldChoice → List FieldDescriptor
  | .all => d.fields
  | .persistable => d.persistableFields
  | .settable => d.settableFields
  | .updatable => d.updatableFields
  | .relationship => d.relationshipFields
  | .named names => names.filterMap fun n => d.fields.find? (·.name = n)

namespace Catalog

/-- The condition that properties have the values of chosen fields of an entity. -/
def entityCondition (c : Catalog) (paramPrefix : String) (entity : Value) (fields : FieldChoice) :
    Except Failure Clause := do
  let d ← c.describeEntity entity
  Clause.condition paramPrefix (Value.ofNames (entity.storedValues (d.choose fields)))

/-- The assignment of the values of an entity to the node bound to a variable. The fields
are those that an update writes, as the entity describes them, unless others are chosen;
such a choice is made before the variable is looked at. -/
def entityAssignment (c : Catalog) (node : Value) (paramPrefix : String) (skipNull : Bool)
    (entity : Value) (fields? : Option FieldChoice) : Except Failure Clause := do
  let chosen? ← fields?.mapM fun fields => do pure ((← c.describeEntity entity).choose fields)
  let node ← Identifier.require node "variable"
  let chosen ← match chosen? with
    | some chosen => pure chosen
    | none => do
      entity.requireFeature .describe
      pure (← c.describeEntity entity).updatableFields
  pure (Clause.assignment node.text paramPrefix skipNull (entity.storedValues chosen))

end Catalog

end GraphMapper
