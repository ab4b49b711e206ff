import GraphMapper.Node
import GraphMapper.Proofs.Assoc
import GraphMapper.Proofs.Outcome

/-!
# Described types

A type that was described has a label and stored fields that can stand in a statement:
`GraphMapper.Catalog.isIdentifier_key`. What an entity holds in such fields are values under
their properties; which properties these are is a matter of the fields alone
(`GraphMapper.Value.keys_storedValues_congr`), and each comes once. The fields described as stored
are those of the type that are (`GraphMapper.Catalog.persistableFields_eq`).
-/

namespace GraphMapper

open Outcome

namespace Catalog

variable {c : Catalog}

/-- A type that is described is a declared one, with nothing behind it that is unresolved or does
not suit, and was described field by field. -/
theorem describeRef_eq_ok {r : EntityRef} {d : Descriptor} :
    c.describeRef r = .ok d ↔ ∃ t, c.find? r = some t ∧ c.unresolved? r = none ∧
      c.isSuited r = true ∧ c.describeType t = .ok d := by
  unfold describeRef
  cases c.find? r with
  | none => simp
  | some t =>
    cases c.unresolved? r with
    | some missing => simp
    | none => cases c.isSuited r <;> simp [mapError_eq_ok]

theorem describeType_of_describeRef {r : EntityRef} {d : Descriptor} (h : c.describeRef r = .ok d) :
    ∃ t, c.find? r = some t ∧ c.describeType t = .ok d := by
  obtain ⟨t, found, -, -, ht⟩ := describeRef_eq_ok.mp h
  exact ⟨t, found, ht⟩

theorem mapM_describeField {t : EntityType} {d : Descriptor} (h : c.describeType t = .ok d) :
    t.fields.mapM c.describeField = .ok d.fields := by
  unfold describeType at h
  split at h
  · obtain ⟨label, -, h⟩ := bind_eq_ok.mp h
    obtain ⟨fields, hf, hd⟩ := bind_eq_ok.mp h
    rw [hf, ← pure_eq_ok.mp hd]
  · cases h

/-- The label of a descriptor is that of the type. -/
theorem label_of_describeType {t : EntityType} {d : Descriptor} (h : c.describeType t = .ok d) :
    t.label = .text d.label.text := by
  unfold describeType at h
  split at h
  · next label accepted =>
    obtain ⟨_, same, h⟩ := bind_eq_ok.mp h
    obtain ⟨fields, -, hd⟩ := bind_eq_ok.mp h
    obtain rfl := pure_eq_ok.mp same
    rw [← pure_eq_ok.mp hd]
    have required : Identifier.require t.label "label" = .ok label := by
      rw [Identifier.require, accepted]
    exact Identifier.require_eq_ok_iff.mp required
  · cases h

theorem isIdentifier_key_of_roleOf {f : Field} (h : c.roleOf f = .ok .scalar) :
    isIdentifier f.key.toList = true := by
  unfold roleOf at h
  split at h
  · split at h <;> cases h
  · split at h
    · cases h
    · split at h
      · assumption
      · cases h

/-- **The properties of stored fields are identifiers.** -/
theorem isIdentifier_key {r : EntityRef} {d : Descriptor} (h : c.describeRef r = .ok d)
    {f : FieldDescriptor} (hf : f ∈ d.fields) (hs : f.isPersistable = true) :
    isIdentifier f.key.toList = true := by
  obtain ⟨t, -, ht⟩ := describeType_of_describeRef h
  obtain ⟨g, -, hg⟩ := exists_of_mem_mapM (mapM_describeField ht) hf
  rw [describeField] at hg
  cases hr : c.roleOf g with
  | error e => rw [hr] at hg; cases hg
  | ok role =>
    rw [hr] at hg
    obtain rfl := Except.ok.inj hg
    obtain rfl : role = .scalar := by simpa [FieldDescriptor.isPersistable] using hs
    exact isIdentifier_key_of_roleOf hr

theorem describeEntity_eq {entity : Value} {type : EntityRef}
    {d : Descriptor} (ht : entity.entityType? = some type) (hd : c.describeRef type = .ok d) :
    c.describeEntity entity = .ok d := by
  rw [describeEntity, ht]
  exact hd

end Catalog

namespace Value

/-- What is taken for an entity type is one. -/
theorem entityRef_eq_ok {v : Value} {r : EntityRef} (h : v.entityRef = .ok r) :
    v = .type (.entity r) := by
  unfold entityRef at h
  split at h
  · exact congrArg _ (congrArg _ (Except.ok.inj h))
  · cases h
  · cases h

/-! ### What an entity holds -/

/-- Which properties are stored does not depend on the entity. -/
theorem keys_storedValues_congr (entity entity' : Value) (fields : List FieldDescriptor) :
    Assoc.keys (entity.storedValues fields) = Assoc.keys (entity'.storedValues fields) :=
  Assoc.keys_ofEntries_congr (by simp [Assoc.keys])

theorem mem_keys_storedValues {entity : Value} {fields : List FieldDescriptor} {key : String} :
    key ∈ Assoc.keys (entity.storedValues fields) ↔
      ∃ f ∈ fields, f.isPersistable = true ∧ f.key = key := by
  rw [storedValues, Assoc.mem_keys_ofEntries]
  simp [Assoc.keys, and_assoc]

theorem nodup_keys_storedValues (entity : Value) (fields : List FieldDescriptor) :
    (Assoc.keys (entity.storedValues fields)).Nodup :=
  Assoc.nodup_keys_ofEntries _

end Value

namespace Descriptor

variable {d : Descriptor} {f : FieldDescriptor}

theorem mem_settableFields :
    f ∈ d.settableFields ↔ f ∈ d.fields ∧ f.isPersistable = true ∧ f.key ≠ identifierKey := by
  simp [settableFields, persistableFields, FieldDescriptor.isIdentifier, and_comm]

theorem mem_updatableFields :
    f ∈ d.updatableFields ↔ f ∈ d.settableFields ∧ f.frozen = false := by
  simp [updatableFields]

/-- The identifier of a node is not among the values that can be set. -/
theorem identifierKey_notMem_settable (d : Descriptor) (entity : Value) :
    identifierKey ∉ Assoc.keys (entity.storedValues d.settableFields) := by
  intro h
  obtain ⟨f, hf, -, hk⟩ := Value.mem_keys_storedValues.mp h
  exact (mem_settableFields.mp hf).2.2 hk

end Descriptor

/-- What is stored in settable fields is stored under identifiers. -/
theorem isIdentifier_of_mem_settable {c : Catalog} {r : EntityRef} {d : Descriptor}
    (h : c.describeRef r = .ok d) {entity : Value} {key : String}
    (hk : key ∈ Assoc.keys (entity.storedValues d.settableFields)) :
    isIdentifier key.toList = true := by
  obtain ⟨f, hf, hs, rfl⟩ := Value.mem_keys_storedValues.mp hk
  obtain ⟨hd, -, -⟩ := Descriptor.mem_settableFields.mp hf
  exact c.isIdentifier_key h hd hs

theorem isIdentifier_of_mem_updatable {c : Catalog} {r : EntityRef} {d : Descriptor}
    (h : c.describeRef r = .ok d) {entity : Value} {key : String}
    (hk : key ∈ Assoc.keys (entity.storedValues d.updatableFields)) :
    isIdentifier key.toList = true := by
  obtain ⟨f, hf, hs, rfl⟩ := Value.mem_keys_storedValues.mp hk
  obtain ⟨hd, -, -⟩ := Descriptor.mem_settableFields.mp (Descriptor.mem_updatableFields.mp hf).1
  exact c.isIdentifier_key h hd hs

/-! ### Stored fields -/

namespace Catalog

variable {c : Catalog} {r : EntityRef} {d : Descriptor}

/-- Whether a field is stored as a property. -/
def isStored (c : Catalog) (f : Field) : Bool :=
  match c.roleOf f with
  | .ok .scalar => true
  | _ => false

/-- The stored fields of a type. -/
def storedFields (c : Catalog) (r : EntityRef) : List Field := (c.fieldsOf r).filter c.isStored

theorem mem_storedFields {f : Field} :
    f ∈ c.storedFields r ↔ f ∈ c.fieldsOf r ∧ c.isStored f = true := List.mem_filter

theorem fieldsOf_of_describeRef (h : c.describeRef r = .ok d) :
    List.Forall₂ (fun f fd => c.describeField f = .ok fd) (c.fieldsOf r) d.fields := by
  obtain ⟨t, found, ht⟩ := describeType_of_describeRef h
  rw [fieldsOf, found]
  exact mapM_eq_ok.mp (mapM_describeField ht)

/-- What is described of a field. -/
theorem describeField_eq_ok {f : Field} {fd : FieldDescriptor} (h : c.describeField f = .ok fd) :
    fd.name = f.name ∧ fd.key = f.key ∧ fd.isPersistable = c.isStored f := by
  obtain ⟨role, hr, rfl⟩ := map_eq_ok.mp h
  refine ⟨rfl, rfl, ?_⟩
  rw [isStored, hr]
  cases role <;> rfl

/-- The stored fields are those that are described so. -/
theorem persistableFields_eq (h : c.describeRef r = .ok d) :
    d.persistableFields.map (fun f => (f.key, f.name)) =
      (c.storedFields r).map fun f => (f.key, f.name) := by
  unfold Descriptor.persistableFields storedFields
  have each := fieldsOf_of_describeRef h
  generalize c.fieldsOf r = fields, d.fields = described at each ⊢
  induction each with
  | nil => rfl
  | @cons f fd _ _ first _ ih =>
    obtain ⟨name, key, stored⟩ := describeField_eq_ok first
    rw [List.filter_cons, List.filter_cons, stored]
    split
    · rw [List.map_cons, List.map_cons, ih, name, key]
    · exact ih

/-- The properties of stored fields are not empty. -/
theorem key_ne_empty {f : Field} (hf : f ∈ c.storedFields r) : f.key ≠ "" := by
  have stored := (mem_storedFields.mp hf).2
  unfold isStored at stored
  split at stored
  · next role =>
    intro empty
    have identifier := isIdentifier_key_of_roleOf role
    rw [empty] at identifier
    exact absurd identifier (by decide)
  · cases stored

end Catalog

end GraphMapper
