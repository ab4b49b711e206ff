import GraphMapper.Proofs.Catalog.Reach
import GraphMapper.Proofs.Descriptor

/-!
# Fields that every type starts with

Every entity type starts with an identifier, the times of creation and of the last update, and a
mark for deletion. A declaration may declare such a field again, under another property or as one
that is not stored; a type **keeps** it otherwise (`GraphMapper.Catalog.Keeps`).

What a kept field is to the descriptor of a type is found by its name, since the fields of a type
that was declared have different names (`GraphMapper.Catalog.Declared.eq_of_name_eq`): a kept field
is stored, under the property it always had (`GraphMapper.Catalog.Keeps.exists_field`).
-/

namespace GraphMapper.Catalog

variable {c : Catalog} {t : EntityRef} {d : Descriptor} {name : String}

/-- A type **keeps** a field that every type starts with: its field of this name is still that. -/
def Keeps (c : Catalog) (t : EntityRef) (name : String) : Prop :=
  ∃ f ∈ baseFields, f.name = name ∧ f ∈ c.fieldsOf t

/-! ### Fields by their names -/

/-- The descriptor names the fields of a type as the type does. -/
theorem names_of_describeRef (h : c.describeRef t = .ok d) :
    d.fields.map FieldDescriptor.name = (c.fieldsOf t).map Field.name := by
  have named : List.Forall₂ (fun f fd => f.name = fd.name) (c.fieldsOf t) d.fields :=
    (fieldsOf_of_describeRef h).imp fun _ _ made => (describeField_eq_ok made).1.symm
  have same := List.forall₂_map_left_iff.mpr (List.forall₂_map_right_iff.mpr named)
  exact (List.forall₂_eq_eq_eq ▸ same).symm

/-- No two fields of a declared type are described by one name. -/
theorem Declared.nodup_names_of_describeRef (declared : c.Declared) (h : c.describeRef t = .ok d) :
    (d.fields.map FieldDescriptor.name).Nodup :=
  names_of_describeRef h ▸ declared.nodup_names_fieldsOf t

theorem Declared.eq_of_name_eq (declared : c.Declared) (h : c.describeRef t = .ok d)
    {f g : FieldDescriptor} (hf : f ∈ d.fields) (hg : g ∈ d.fields) (named : f.name = g.name) :
    f = g :=
  List.inj_on_of_nodup_map (declared.nodup_names_of_describeRef h) hf hg named

/-- A field of a type has a descriptor. -/
theorem exists_describeField (h : c.describeRef t = .ok d) {f : Field} (hf : f ∈ c.fieldsOf t) :
    ∃ fd ∈ d.fields, c.describeField f = .ok fd :=
  Outcome.exists_of_mem_right (fieldsOf_of_describeRef h).flip hf

/-- **The name of an attribute stands for the property of its field.** -/
theorem Declared.graphKey_of_mem (declared : c.Declared) (h : c.describeRef t = .ok d)
    {fd : FieldDescriptor} (hfd : fd ∈ d.fields) : d.graphKey (.text fd.name) = .text fd.key := by
  have asked (g : FieldDescriptor) :
      ((Value.text fd.name).text? == some g.name) = decide (g.name = fd.name) := by
    rw [Value.text?, Option.some_beq_some, Bool.beq_comm]
    rfl
  rw [Descriptor.graphKey, funext asked,
    find?_of_nodup_map (declared.nodup_names_of_describeRef h) hfd]

theorem Declared.graphKey_name (declared : c.Declared) (h : c.describeRef t = .ok d) {f : Field}
    (hf : f ∈ c.fieldsOf t) : d.graphKey (.text f.name) = .text f.key := by
  obtain ⟨fd, hfd, made⟩ := exists_describeField h hf
  obtain ⟨name, key, -⟩ := describeField_eq_ok made
  rw [← name, declared.graphKey_of_mem h hfd, key]

/-! ### Kept fields -/

/-- What every type starts with is stored. -/
theorem isStored_of_mem_baseFields : ∀ f ∈ baseFields, c.isStored f = true := by
  simp only [baseFields, List.forall_mem_cons]
  exact ⟨rfl, rfl, rfl, rfl, by simp⟩

theorem frozen_of_describeField {f : Field} {fd : FieldDescriptor}
    (h : c.describeField f = .ok fd) : fd.frozen = f.frozen := by
  obtain ⟨role, -, rfl⟩ := Outcome.map_eq_ok.mp h
  rfl

/-- **A kept field is what it is in all types**: it is stored, and what the field every type starts
with says of it holds. -/
theorem Keeps.exists_field (kept : c.Keeps t name) (h : c.describeRef t = .ok d) :
    ∃ f ∈ baseFields, ∃ fd ∈ d.fields, f.name = name ∧ f ∈ c.fieldsOf t ∧ fd.name = name ∧
      fd.key = f.key ∧ fd.frozen = f.frozen ∧ fd.isPersistable = true := by
  obtain ⟨f, base, rfl, hf⟩ := kept
  obtain ⟨fd, hfd, made⟩ := exists_describeField h hf
  obtain ⟨named, key, stored⟩ := describeField_eq_ok made
  exact ⟨f, base, fd, hfd, rfl, hf, named, key, frozen_of_describeField made,
    stored.trans (isStored_of_mem_baseFields f base)⟩

/-- The identifier goes by its property, unless it is declared again. -/
theorem Keeps.exists_uuid (h : c.Keeps t "uuid") :
    ∃ f ∈ c.fieldsOf t, f.name = "uuid" ∧ f.key = identifierKey := by
  obtain ⟨f, base, named, kept⟩ := h
  have keyed : ∀ f ∈ baseFields, f.name = "uuid" → f.key = identifierKey := by decide
  exact ⟨f, kept, named, keyed f base named⟩

end GraphMapper.Catalog
