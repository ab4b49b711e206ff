import GraphMapper.Proofs.Created
import Mathlib.Data.List.Nodup

/-!
# What a new node is given

A node is created with the values of an entity under the properties of its settable fields, and with
a fresh identifier. The statement names the properties, the parameters hold the values.

The values are collected property by property, so each property stands in the pattern once, at the
place of the first field that has it (`GraphMapper.Descriptor.keys_createdValues`). A field that has
its property for itself gives its value; of fields that share one, the pattern cannot hold more than
one value, and no field that is not settable has a say in which
(`GraphMapper.Request.Creates`).

Which field holds the identifier is decided by its property and not by its name. Where no settable
field has the name `uuid`, nothing that is sent depends on an identifier that the entity already has
(`GraphMapper.Request.createdValues_withAttr_uuid`); a type that declares `uuid` again under another
property has made it a field like any other.
-/

namespace GraphMapper

open GraphMapper.Action Statement

namespace Value

variable {entity : Value} {name : String}

/-- Replacing an attribute leaves the others. -/
theorem attr_withAttr_of_ne {other : String} (h : other ≠ name) (entity value : Value) :
    (entity.withAttr name value).attr other = entity.attr other := by
  cases entity with
  | entity r attributes =>
    exact congrArg (·.getD .null) (Assoc.lookup_set_of_ne h value attributes)
  | _ => rfl

/-- A replaced attribute is what it was replaced by. -/
theorem attr_withAttr_self {t : EntityRef} (typed : entity.entityType? = some t) (name : String)
    (value : Value) : (entity.withAttr name value).attr name = value := by
  cases entity with
  | entity r attributes =>
    exact congrArg (·.getD .null) (Assoc.lookup_set_self name value attributes)
  | _ => cases typed

theorem entityType?_withAttr (entity : Value) (name : String) (value : Value) :
    (entity.withAttr name value).entityType? = entity.entityType? := by
  cases entity <;> rfl

end Value

namespace Descriptor

variable {d : Descriptor} {f : FieldDescriptor}

/-- The properties of the settable fields, in order, each once. -/
def settableKeys (d : Descriptor) : List String := (d.settableFields.map (·.key)).eraseDups

/-- A settable field has its property for itself if no other settable field has it. -/
def IsAlone (d : Descriptor) (f : FieldDescriptor) : Prop :=
  ∀ g ∈ d.settableFields, g.key = f.key → g = f

theorem filter_settableFields (d : Descriptor) :
    d.settableFields.filter (·.isPersistable) = d.settableFields := by
  refine List.filter_eq_self.mpr fun f hf => ?_
  exact (mem_settableFields.mp hf).2.1

/-- The values of the settable fields are listed under their properties. -/
theorem keys_settable (d : Descriptor) (entity : Value) :
    Assoc.keys (entity.storedValues d.settableFields) = d.settableKeys := by
  rw [Value.storedValues, Assoc.keys_ofEntries, filter_settableFields, settableKeys, Assoc.keys,
    List.map_map]
  rfl

theorem keys_createdValues (d : Descriptor) (entity : Value) (identifier : String) :
    Assoc.keys (Request.createdValues d entity identifier) = d.settableKeys ++ [identifierKey] := by
  rw [Request.createdValues, Assoc.keys, List.map_append, ← keys_settable d entity]
  rfl

/-- Under the property of a stored field, the value of a stored field counts. -/
theorem exists_holder? (hf : f ∈ d.persistableFields) :
    ∃ g ∈ d.persistableFields, g.key = f.key ∧ d.holder? f.key = some g := by
  have some : (d.holder? f.key).isSome = true :=
    List.find?_isSome.mpr ⟨f, List.mem_reverse.mpr hf, by simp⟩
  obtain ⟨g, held⟩ := Option.isSome_iff_exists.mp some
  have keyed : g.key = f.key := by simpa using List.find?_some held
  exact ⟨g, List.mem_reverse.mp (List.mem_of_find?_eq_some held), keyed, held⟩

/-- Where the properties are different, it is the value of that field. -/
theorem holder?_eq_some (distinct : (d.persistableFields.map FieldDescriptor.key).Nodup)
    (hf : f ∈ d.persistableFields) : d.holder? f.key = some f := by
  obtain ⟨g, hg, keyed, held⟩ := exists_holder? hf
  rw [held, List.inj_on_of_nodup_map distinct hg hf keyed]

/-- Under the property of a settable field, the value of a settable field counts. -/
theorem exists_settable_holder? (hf : f ∈ d.settableFields) :
    ∃ g ∈ d.settableFields, g.key = f.key ∧ d.holder? f.key = some g := by
  obtain ⟨field, persistable, other⟩ := mem_settableFields.mp hf
  obtain ⟨g, hg, keyed, held⟩ := exists_holder? (List.mem_filter.mpr ⟨field, persistable⟩)
  obtain ⟨field', persistable'⟩ := List.mem_filter.mp hg
  -- It has the same property, so it is not the identifier either.
  exact ⟨g, mem_settableFields.mpr ⟨field', persistable', keyed ▸ other⟩, keyed, held⟩

/-- A field that has its property for itself is the one whose value counts. -/
theorem IsAlone.holder? (alone : d.IsAlone f) (hf : f ∈ d.settableFields) :
    d.holder? f.key = some f := by
  obtain ⟨g, hg, keyed, held⟩ := exists_settable_holder? hf
  rw [held, alone g hg keyed]

end Descriptor

/-- The text of a condition on some properties, each bound to the parameter of its name. -/
def Clause.conditions (keys : List String) : String :=
  clauseSeparator.intercalate (keys.map fun key => key ++ ":$" ++ key)

theorem Clause.text_conditions (values : Parameters) :
    (ofValues .condition "" values).text = conditions (Assoc.keys values) := by
  have plain (key : String) : textOf .condition "" key = key ++ ":$" ++ key := by
    rw [textOf, Binding.ofEntry, Binding.text, String.empty_append]
  rw [text_ofValues, conditions, funext plain]

namespace Request

/-- **A request to create a node** with what an entity holds in its settable fields, and an
identifier. -/
structure Creates (r : Request) (d : Descriptor) (entity : Value) (identifier : String)
    (values : Parameters) : Prop where
  /-- The pattern lists the properties of the settable fields in order, each once, and then that of
  the identifier. -/
  listed : r.statement =
    Wording.create d.label.text (Clause.conditions (d.settableKeys ++ [identifierKey]))
  /-- The parameters are these, and no others. -/
  parameters : r.parameters = .ofParameters values
  /-- They have the names of the properties, in the same order. -/
  keys : Assoc.keys values = d.settableKeys ++ [identifierKey]
  /-- No name comes twice. -/
  once : (Assoc.keys values).Nodup
  /-- The identifier is the given one. -/
  identified : values.lookup identifierKey = some (.text identifier)
  /-- A field that has its property for itself gives its value. -/
  alone : ∀ f ∈ d.settableFields, d.IsAlone f → values.lookup f.key = some (entity.attr f.name)
  /-- Every other value is that of a settable field with this property. -/
  settable : ∀ key ∈ d.settableKeys, ∃ f ∈ d.settableFields, f.key = key ∧
    values.lookup key = some (entity.attr f.name)

variable {c : Catalog} {t : EntityRef} {d : Descriptor} {entity : Value}
  {identifier : String}

/-- What is written of an entity does not depend on the identifier it has, unless a settable field
goes by that name. -/
theorem createdValues_withAttr_uuid (h : ∀ f ∈ d.settableFields, f.name ≠ "uuid") (v : Value) :
    createdValues d (entity.withAttr "uuid" v) identifier = createdValues d entity identifier := by
  have same : ∀ f ∈ d.settableFields,
      (f.key, (entity.withAttr "uuid" v).attr f.name) = (f.key, entity.attr f.name) := by
    intro f hf
    rw [Value.attr_withAttr_of_ne (h f hf)]
  rw [createdValues, createdValues, Value.storedValues, Value.storedValues,
    Descriptor.filter_settableFields, List.map_congr_left same]

/-- The value that counts under the property of a settable field is what is written. -/
theorem lookup_settable_of_holder? {f g : FieldDescriptor} (hf : f ∈ d.settableFields)
    (counts : d.holder? f.key = some g) :
    (createdValues d entity identifier).lookup f.key = some (entity.attr g.name) := by
  have other : f.key ≠ identifierKey := (Descriptor.mem_settableFields.mp hf).2.2
  rw [lookup_createdValues, if_neg other, d.lookup_settable entity other, Descriptor.stored?,
    counts]
  rfl

/-- The request to create a node from an entity. -/
theorem add_eq (typed : entity.entityType? = some t) (described : c.describeRef t = .ok d)
    (identifier : String) : add c identifier entity =
      .ok ⟨Wording.create d.label.text (Clause.conditions (d.settableKeys ++ [identifierKey])),
        .ofParameters (createdValues d entity identifier),
        .createdNode t d.label.text identifier⟩ := by
  obtain ⟨r, requested⟩ := exists_add typed described identifier
  obtain ⟨t', d', typed', described', rfl⟩ := add_eq_ok requested
  obtain rfl := Option.some.inj (typed.symm.trans typed')
  obtain rfl := Except.ok.inj (described.symm.trans described')
  rw [requested, Clause.text_conditions, Descriptor.keys_createdValues,
    Clause.parameters_ofValues_plain,
    Assoc.ofEntries_of_nodup (nodup_keys_createdValues d entity identifier)]

/-- It is put together from the settable values. -/
theorem creates_createdValues (d : Descriptor) (entity : Value) (identifier : String)
    (reading : Reading) :
    Creates ⟨Wording.create d.label.text (Clause.conditions (d.settableKeys ++ [identifierKey])),
        .ofParameters (createdValues d entity identifier), reading⟩
      d entity identifier (createdValues d entity identifier) where
  listed := rfl
  parameters := rfl
  keys := d.keys_createdValues entity identifier
  once := nodup_keys_createdValues d entity identifier
  identified := by rw [lookup_createdValues, if_pos rfl]
  alone := fun f hf alone => lookup_settable_of_holder? hf (alone.holder? hf)
  settable := by
    intro key hk
    obtain ⟨f, hf, rfl⟩ := List.mem_map.mp (List.mem_eraseDups.mp hk)
    obtain ⟨g, hg, keyed, counts⟩ := Descriptor.exists_settable_holder? hf
    exact ⟨g, hg, keyed, lookup_settable_of_holder? hf counts⟩

end Request

namespace Client

variable {σ : Type} [Database σ] {c : Catalog} {t : EntityRef} {d : Descriptor} {entity : Value}

end Client

/-! ### Fields that share a property, and an identifier with another one -/

namespace Example

/-- Cards have a front and a back, both stored under one property. -/
def card : EntityType :=
  { number := 0
    name := "Card"
    label := .text "Card"
    fields := EntityType.extend baseFields
      [{ name := "front", type := .plain .text, alias? := some "Text" },
       { name := "back", type := .plain .text, alias? := some "Text" }] }

/-- The catalog of cards. -/
def cards : Catalog := ⟨[card]⟩

/-- A card with something on both sides. -/
def oneCard : Value :=
  .entity card.ref
    [("uuid", .null), ("created_at", .float 0), ("updated_at", .null), ("is_deleted", .bool false),
      ("front", .text "a"), ("back", .text "b")]

/-- Badges store their identifiers under a property of their own. -/
def badge : EntityType :=
  { number := 0
    name := "Badge"
    label := .text "Badge"
    fields := EntityType.extend baseFields
      [{ name := "uuid", type := .optional (.plain .text), alias? := some "Id",
         default := .value .null }] }

/-- The catalog of badges. -/
def badges : Catalog := ⟨[badge]⟩

/-- A badge with an identifier. -/
def oneBadge : Value :=
  .entity badge.ref
    [("uuid", .text "mine"), ("created_at", .float 0), ("updated_at", .null),
      ("is_deleted", .bool false)]

end Example

namespace Client

end Client

end GraphMapper
