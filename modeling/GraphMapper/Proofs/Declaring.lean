import GraphMapper.EntityType
import GraphMapper.Proofs.Assoc
import GraphMapper.Proofs.Outcome

/-!
# Catalogs of declarations

A catalog comes about by declaring types, one after the other, and by decorating them:
`GraphMapper.Catalog.Declared`. The types in it start from the fields of others, and a field that
is declared again takes the place of the earlier one. So the fields of a type have different names
(`GraphMapper.Catalog.Declared.nodup_names_fieldsOf`), which is what makes a name stand for an
attribute.
-/

namespace GraphMapper

open Outcome

/-- Fields declared again keep their places, so no name comes twice. -/
theorem EntityType.nodup_names_extend {fields : List Field} (h : (fields.map Field.name).Nodup)
    (more : List Field) : ((extend fields more).map Field.name).Nodup := by
  have keys (fields : List Field) :
      Assoc.keys (fields.map fun f => (f.name, f)) = fields.map Field.name := by simp [Assoc.keys]
  have named : (extend fields more).map Field.name = Assoc.keys
      (Assoc.update (fields.map fun f => (f.name, f)) (more.map fun f => (f.name, f))) := by
    rw [extend, List.map_map, Assoc.keys]
    refine List.map_congr_left fun e he => ?_
    rcases Assoc.mem_or_mem_of_mem_update he with he | he <;>
      obtain ⟨f, -, rfl⟩ := List.mem_map.mp he <;> rfl
  rw [named]
  exact Assoc.nodup_keys_update ((keys fields).symm ▸ h) _

/-- The fields of an extension come from either side. -/
theorem EntityType.mem_or_mem_of_mem_extend {fields more : List Field} {f : Field}
    (h : f ∈ extend fields more) : f ∈ fields ∨ f ∈ more := by
  obtain ⟨e, he, rfl⟩ := List.mem_map.mp h
  refine (Assoc.mem_or_mem_of_mem_update he).imp (fun he => ?_) fun he => ?_ <;>
    obtain ⟨f, hf, rfl⟩ := List.mem_map.mp he <;> exact hf

namespace Catalog

variable {c c' : Catalog}

theorem resolve_resolve (c : Catalog) (r : EntityRef) : c.resolve (c.resolve r) = c.resolve r := by
  cases r with
  | pending name =>
    change c.resolve (c.refer name) = c.refer name
    unfold refer
    split
    · rfl
    · next other =>
      cases found : c.latest? name with
      | none =>
        change c.refer name = _
        rw [refer, if_neg other, found]
      | some t => rfl
  | _ => rfl

theorem resolve_refer (c : Catalog) (name : String) : c.resolve (c.refer name) = c.refer name :=
  c.resolve_resolve (.pending name)

/-- Catalogs made by declaring and decorating types. -/
inductive Declared : Catalog → Prop where
  /-- No type is declared. -/
  | nothing : Declared {}
  /-- One more type is declared. -/
  | declare {c c' : Catalog} {d : Declaration} (h : Declared c) (declared : c.declare d = .ok c') :
    Declared c'
  /-- A type is decorated. -/
  | decorate {c : Catalog} (h : Declared c) (r : EntityRef) (label : Value) :
    Declared (c.decorate r label)

/-- A declaration appends a type. -/
theorem types_of_declare {d : Declaration} (h : c.declare d = .ok c') :
    ∃ fields, c.parentFields d = .ok fields ∧ c'.types = c.types ++ [c.declared fields d] := by
  obtain ⟨fields, found, h⟩ := bind_eq_ok.mp h
  refine ⟨fields, found, ?_⟩
  dsimp only at h
  split at h
  · cases h
  · split at h
    · cases h
    · rw [← pure_eq_ok.mp h]

theorem fields_declared (c : Catalog) (fields : List Field) (d : Declaration) :
    ∃ own, (c.declared fields d).fields = EntityType.extend fields own := by
  unfold declared
  dsimp only
  split <;> exact ⟨_, rfl⟩

theorem number_declared (c : Catalog) (fields : List Field) (d : Declaration) :
    (c.declared fields d).number = c.types.length := by
  unfold declared
  dsimp only
  split <;> rfl

theorem name_declared (c : Catalog) (fields : List Field) (d : Declaration) :
    (c.declared fields d).name = d.name := by
  unfold declared
  dsimp only
  split <;> rfl

/-- The types of a catalog have fields of different names. -/
theorem Declared.nodup_names (h : c.Declared) :
    ∀ t ∈ c.types, (t.fields.map Field.name).Nodup := by
  induction h with
  | nothing => simp
  | @declare c c' d _ declared ih =>
    obtain ⟨fields, found, types⟩ := types_of_declare declared
    have start : (fields.map Field.name).Nodup := by
      unfold parentFields at found
      split at found
      · obtain rfl := Except.ok.inj found
        decide
      · split at found
        · next t parent =>
          obtain rfl := Except.ok.inj found
          exact ih t (List.mem_reverse.mp (List.mem_of_find?_eq_some parent))
        · cases found
    rw [types]
    refine List.forall_mem_append.mpr ⟨ih, List.forall_mem_singleton.mpr ?_⟩
    obtain ⟨own, extended⟩ := fields_declared c fields d
    rw [extended]
    exact EntityType.nodup_names_extend start own
  | @decorate c _ r label ih =>
    intro t decorated
    obtain ⟨t, ht, rfl⟩ := List.mem_map.mp decorated
    split <;> exact ih t ht

theorem mem_types_of_find? {r : EntityRef} {t : EntityType} (h : c.find? r = some t) :
    t ∈ c.types := by
  unfold find? at h
  split at h
  · exact List.mem_of_find?_eq_some h
  · cases h

/-- **The fields of a type have different names.** -/
theorem Declared.nodup_names_fieldsOf (h : c.Declared) (r : EntityRef) :
    ((c.fieldsOf r).map Field.name).Nodup := by
  unfold fieldsOf
  cases found : c.find? r with
  | none => decide
  | some t => exact h.nodup_names t (mem_types_of_find? found)

end Catalog

end GraphMapper
