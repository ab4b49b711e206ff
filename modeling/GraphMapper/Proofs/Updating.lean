import GraphMapper.Proofs.Catalog.Inherited
import GraphMapper.Proofs.Filled
import GraphMapper.Proofs.Settable

/-!
# What an update writes

An update writes what an entity holds in the fields that are stored, not frozen, and not the
identifier; but under the property of the last update it writes the time. There are three ways to
it: a full update, a partial one that leaves nulls out, and the branch of a merge for a node that is
there. They copy the entity with other attributes, choose fields, collect their values property by
property, and put the identifier into the parameters afterwards.

What comes out is one list (`GraphMapper.Descriptor.stampedValues`), of which a partial update keeps
the part that is not null (`GraphMapper.Request.updatedValues_eq`). Two things about the type are
behind this. Its properties are pairwise different, so collecting them loses nothing. And it keeps
the fields of the identifier and of the time (`GraphMapper.Catalog.Updatable`), so of the attributes
in which the copy differs from the entity, one is not written, and the other under its own property
only (`GraphMapper.Catalog.Updatable.attr_stamped`).
-/

namespace GraphMapper

open GraphMapper.Action Statement

/-- A type that is fit for use, with different properties for its stored fields, which keeps the
fields of the identifier and of the last update. -/
structure Catalog.Updatable (c : Catalog) (t : EntityRef) (d : Descriptor) : Prop where
  /-- The catalog was made by declarations. -/
  declared : c.Declared
  /-- The type is described. -/
  described : c.describeRef t = .ok d
  /-- No two stored fields share a property. -/
  distinct : (d.persistableFields.map FieldDescriptor.key).Nodup
  /-- It keeps the identifier. -/
  identified : c.Keeps t "uuid"
  /-- It keeps the time of the last update. -/
  timed : c.Keeps t "updated_at"

namespace Descriptor

variable {d : Descriptor}

/-- A field that is updated is a stored one, and not the identifier. -/
theorem settable_of_mem_updatableFields {f : FieldDescriptor} (hf : f ∈ d.updatableFields) :
    f ∈ d.fields ∧ f.isPersistable = true ∧ f.key ≠ identifierKey :=
  mem_settableFields.mp (mem_updatableFields.mp hf).1

/-- What an update at a time writes from an entity: the values of the fields that are stored, not
frozen, and not the identifier, in order, and the time in place of that of the last update. -/
def stampedValues (d : Descriptor) (now : Float) (entity : Value) : Parameters :=
  (d.fields.filter fun f => f.isPersistable && !f.isIdentifier && !f.frozen).map fun f =>
    (f.key, if f.key = updatedAtKey then .float now else entity.attr f.name)

theorem updatableFields_eq (d : Descriptor) : d.updatableFields =
    d.fields.filter fun f => f.isPersistable && !f.isIdentifier && !f.frozen := by
  rw [updatableFields, settableFields, persistableFields, List.filter_filter, List.filter_filter]
  refine List.filter_congr fun f _ => ?_
  cases f.isPersistable <;> cases f.isIdentifier <;> cases f.frozen <;> rfl

theorem keys_stampedValues (d : Descriptor) (now : Float) (entity : Value) :
    Assoc.keys (d.stampedValues now entity) = d.updatableFields.map FieldDescriptor.key := by
  rw [stampedValues, ← updatableFields_eq, Assoc.keys, List.map_map]
  rfl

theorem identifierKey_notMem_stampedValues (d : Descriptor) (now : Float) (entity : Value) :
    identifierKey ∉ Assoc.keys (d.stampedValues now entity) := by
  rw [keys_stampedValues]
  intro identified
  obtain ⟨f, hf, keyed⟩ := List.mem_map.mp identified
  exact (settable_of_mem_updatableFields hf).2.2 keyed

end Descriptor

namespace Catalog.Updatable

variable {c : Catalog} {t : EntityRef} {d : Descriptor} (h : c.Updatable t d)
  {f : FieldDescriptor} {entity : Value} {now : Float}

include h

/-- Different fields are updated under different properties. -/
theorem nodup_keys : (d.updatableFields.map FieldDescriptor.key).Nodup := by
  have part : d.updatableFields.Sublist d.persistableFields :=
    List.filter_sublist.trans List.filter_sublist
  exact h.distinct.sublist (part.map _)

/-- The identifier is not updated. -/
theorem name_ne_uuid (hf : f ∈ d.updatableFields) : f.name ≠ "uuid" := by
  intro named
  obtain ⟨g, base, fd, hfd, gNamed, -, fdNamed, keyed, -⟩ := h.identified.exists_field h.described
  have keys : ∀ g ∈ baseFields, g.name = "uuid" → g.key = identifierKey := by decide
  obtain ⟨field, -, other⟩ := Descriptor.settable_of_mem_updatableFields hf
  obtain rfl := h.declared.eq_of_name_eq h.described field hfd (named.trans fdNamed.symm)
  exact other (keyed.trans (keys g base gNamed))

/-- The time of the last update is, under its property. -/
theorem exists_timed : ∃ f ∈ d.updatableFields, f.name = "updated_at" ∧ f.key = updatedAtKey := by
  obtain ⟨g, base, f, hf, gNamed, -, named, keyed, frozen, stored⟩ :=
    h.timed.exists_field h.described
  have facts : ∀ g ∈ baseFields, g.name = "updated_at" →
      g.key = updatedAtKey ∧ g.frozen = false ∧ updatedAtKey ≠ identifierKey := by decide
  obtain ⟨key, open_, other⟩ := facts g base gNamed
  have settable : f ∈ d.settableFields :=
    Descriptor.mem_settableFields.mpr ⟨hf, stored, by rw [keyed, key]; exact other⟩
  exact ⟨f, Descriptor.mem_updatableFields.mpr ⟨settable, frozen.trans open_⟩, named,
    keyed.trans key⟩

/-- Its property is that of no other field that is updated. -/
theorem name_eq_iff (hf : f ∈ d.updatableFields) :
    f.name = "updated_at" ↔ f.key = updatedAtKey := by
  obtain ⟨g, hg, named, keyed⟩ := h.exists_timed
  have field {f : FieldDescriptor} (hf : f ∈ d.updatableFields) : f ∈ d.fields :=
    (Descriptor.settable_of_mem_updatableFields hf).1
  constructor
  · intro same
    rw [h.declared.eq_of_name_eq h.described (field hf) (field hg) (same.trans named.symm), keyed]
  · intro same
    rw [List.inj_on_of_nodup_map h.nodup_keys hf hg (same.trans keyed.symm), named]

/-- **What the stamped entity holds** in a field that is updated: the time in that of the last
update, and what the entity holds in any other. -/
theorem attr_stamped {t' : EntityRef} (typed : entity.entityType? = some t')
    (hf : f ∈ d.updatableFields) : (Request.stamped now entity).attr f.name =
      if f.key = updatedAtKey then .float now else entity.attr f.name := by
  by_cases timed : f.key = updatedAtKey
  · rw [if_pos timed, (h.name_eq_iff hf).mpr timed, Request.stamped, Value.attr_withAttr_self typed]
  · rw [if_neg timed, Request.stamped,
      Value.attr_withAttr_of_ne (mt (h.name_eq_iff hf).mp timed)]

theorem storedValues_updatable (entity : Value) : entity.storedValues d.updatableFields =
    d.updatableFields.map fun f => (f.key, entity.attr f.name) := by
  have persistable : d.updatableFields.filter (·.isPersistable) = d.updatableFields := by
    refine List.filter_eq_self.mpr fun f hf => ?_
    exact (Descriptor.settable_of_mem_updatableFields hf).2.1
  have distinct :
      (Assoc.keys (d.updatableFields.map fun f => (f.key, entity.attr f.name))).Nodup := by
    rw [Assoc.keys, List.map_map]
    exact h.nodup_keys
  rw [Value.storedValues, persistable, Assoc.ofEntries_of_nodup distinct]

/-- **An update writes one list of values**, whatever identifier the entity has. -/
theorem storedValues_stamped (typed : entity.entityType? = some t) (now : Float) :
    (Request.stamped now entity).storedValues d.updatableFields = d.stampedValues now entity ∧
      ∀ v, (Request.stamped now (entity.withAttr "uuid" v)).storedValues d.updatableFields =
        d.stampedValues now entity := by
  have listed (other : Value) (same : ∀ f ∈ d.updatableFields, other.attr f.name =
      if f.key = updatedAtKey then .float now else entity.attr f.name) :
      other.storedValues d.updatableFields = d.stampedValues now entity := by
    rw [h.storedValues_updatable, Descriptor.stampedValues, ← Descriptor.updatableFields_eq]
    exact List.map_congr_left fun f hf => by rw [same f hf]
  -- Of the two attributes that were replaced, the identifier is not among those that are updated.
  refine ⟨listed _ fun f hf => h.attr_stamped typed hf, fun v => listed _ fun f hf => ?_⟩
  rw [h.attr_stamped ((entity.entityType?_withAttr "uuid" v).trans typed) hf,
    Value.attr_withAttr_of_ne (h.name_ne_uuid hf)]

theorem nodup_keys_stampedValues (now : Float) (entity : Value) :
    (Assoc.keys (d.stampedValues now entity)).Nodup :=
  d.keys_stampedValues now entity ▸ h.nodup_keys

/-- The time is always among what is written. -/
theorem mem_stampedValues (now : Float) (entity : Value) :
    (updatedAtKey, .float now) ∈ d.stampedValues now entity := by
  obtain ⟨f, hf, -, keyed⟩ := h.exists_timed
  rw [Descriptor.stampedValues, ← Descriptor.updatableFields_eq]
  exact List.mem_map.mpr ⟨f, hf, by rw [if_pos keyed, keyed]⟩

end Catalog.Updatable

/-! ### Reading the list of an update -/

/-- The list behind the word `SET` of an update, read from its statement. -/
theorem Wording.setLists_update (label : Identifier) {Belongs : String → Prop} {parts : List String}
    (hp : AreSet Belongs parts) {ending : String} (quiet : listsIn (' ' :: ending.toList) = []) :
    setLists (update label.text (",".intercalate parts) ending) = [",".intercalate parts] := by
  have chars : (update label.text (",".intercalate parts) ending).toList =
      "MATCH (n:".toList ++ (label.text.toList ++ ("\x7bUuid:$Uuid,IsDeleted:false\x7d)".toList ++
        (setMark ++ ((",".intercalate parts).toList ++ (' ' :: ending.toList))))) := by
    simp [update, setMark]
  have blank : ' ' ∉ (",".intercalate parts).toList :=
    notMem_intercalate_of_isElement hp.element rfl (by decide)
  rw [setLists, chars, listsIn_append (by decide), listsIn_append label.plain.unset,
    listsIn_append (by decide), listsIn_set blank hp.begins (.inr rfl), quiet, String.ofList_toList]

/-- **A statement and parameters that update a node** with some values: the list behind `SET`
assigns them in order, each to its property, from the parameter of the same name; and the parameters
are these and the identifier. -/
structure Updates (sent : String × Value) (values : Parameters) (identifier : String) : Prop where
  /-- The assignments, in order. -/
  listed : setLists sent.1 = [",".intercalate
    ((Assoc.keys values).map fun key => nodeVariable ++ "." ++ key ++ "=$" ++ key)]
  /-- The parameters, in order. -/
  parameters : sent.2 = .ofParameters (values ++ [(identifierKey, .text identifier)])

/-- **A statement and parameters that update a node that is there** with some values: the branch
assigns them in order, each to its property, from a parameter of its own. -/
structure UpdatesMatched (sent : String × Value) (values : Parameters) : Prop where
  /-- The assignments, in order. -/
  listed : assignments "MATCH" sent.1 = (Assoc.keys values).map fun key =>
    nodeVariable ++ "." ++ key ++ "=$" ++ (Request.onMatchPrefix ++ key)
  /-- Their parameters are bound to the values. -/
  bound : ∃ parameters, sent.2 = .ofParameters parameters ∧
    ∀ e ∈ values, parameters.lookup (Request.onMatchPrefix ++ e.1) = some e.2

namespace Request

variable {c : Catalog} {t : EntityRef} {d : Descriptor} {entity : Value} {values : Parameters}

theorem updates_ofValues (label : Identifier)
    (hv : ∀ k ∈ Assoc.keys values, isIdentifier k.toList = true) (hne : values ≠ [])
    (once : (Assoc.keys values).Nodup) (apart : identifierKey ∉ Assoc.keys values)
    (identifier : String) (fetch : Bool) :
    Updates
      (Wording.update label.text (Clause.ofValues (.assignment nodeVariable) "" values).text
        (if fetch then "RETURN " ++ nodeVariable else ""),
      .ofParameters (Assoc.set identifierKey (.text identifier)
        (Clause.ofValues (.assignment nodeVariable) "" values).parameters)) values identifier where
  listed := by
    have plain (key : String) : Clause.textOf (.assignment nodeVariable) "" key =
        nodeVariable ++ "." ++ key ++ "=$" ++ key := by
      rw [Clause.textOf, Binding.ofEntry, Binding.text, String.empty_append]
    have parts := Clause.areSet_parts hv hne (.inl rfl) (by decide)
    -- What follows the list is a return of the node, or nothing.
    have quiet :
        listsIn (' ' :: (if fetch then "RETURN " ++ nodeVariable else "").toList) = [] := by
      cases fetch <;> decide
    rw [Clause.text_ofValues_parts, Wording.setLists_update label parts quiet, Clause.parts,
      funext plain]
  parameters := by
    rw [Clause.parameters_ofValues_plain, Assoc.ofEntries_of_nodup once,
      Assoc.set_of_not_mem apart]

/-- Some values, without those that are null if these are left out. -/
def kept (skipNull : Bool) (values : Parameters) : Parameters :=
  if skipNull then values.filter (!·.2.isNull) else values

theorem kept_sublist (skipNull : Bool) (values : Parameters) :
    (kept skipNull values).Sublist values := by
  cases skipNull with
  | false => exact List.Sublist.refl _
  | true => exact List.filter_sublist

theorem mem_kept {e : String × Value} (hn : e.2.isNull = false) (he : e ∈ values)
    (skipNull : Bool) : e ∈ kept skipNull values := by
  cases skipNull with
  | false => exact he
  | true => exact List.mem_filter.mpr ⟨he, by rw [hn]; rfl⟩

section Updating

variable (h : c.Updatable t d) (typed : entity.entityType? = some t)

include h typed

theorem isIdentifier_of_mem_stampedValues {now : Float} {key : String}
    (hk : key ∈ Assoc.keys (d.stampedValues now entity)) : isIdentifier key.toList = true := by
  rw [← (h.storedValues_stamped typed now).1] at hk
  exact isIdentifier_of_mem_updatable h.described hk

/-- **A full or a partial update** of a node from an entity. -/
theorem updates_of_update {now : Float} {skipNull fetch : Bool} {id : String} {r : Request}
    (hr : update c now skipNull entity (.text id) fetch = .ok r) :
    Updates (r.statement, r.parameters) (kept skipNull (d.stampedValues now entity)) id := by
  obtain ⟨t', id', d', typed', given, described', rfl⟩ := update_eq_ok hr
  obtain rfl := Option.some.inj (typed.symm.trans typed')
  obtain rfl := Except.ok.inj (h.described.symm.trans described')
  obtain rfl := Value.text.inj given
  have values : updatedValues d skipNull (written now entity id) =
      kept skipNull (d.stampedValues now entity) := by
    rw [updatedValues, Request.written, (h.storedValues_stamped typed now).2, kept]
  have part : (Assoc.keys (kept skipNull (d.stampedValues now entity))).Sublist
      (Assoc.keys (d.stampedValues now entity)) := (kept_sublist skipNull _).map Prod.fst
  -- The time is never null, so there is something to write.
  have timed := mem_kept rfl (h.mem_stampedValues now entity) skipNull
  rw [values]
  exact updates_ofValues d.label
    (fun k hk => isIdentifier_of_mem_stampedValues h typed (part.subset hk))
    (List.ne_nil_of_mem timed) ((h.nodup_keys_stampedValues now entity).sublist part)
    (mt (part.subset ·) (d.identifierKey_notMem_stampedValues now entity)) id fetch

/-- **A merge**, where the node is there. -/
theorem updatesMatched_of_merge {now : Float} {identifier : String} {onCreate properties : Value}
    {r : Request} (hr : merge c now identifier onCreate entity properties = .ok r) :
    UpdatesMatched (r.statement, r.parameters) (d.stampedValues now entity) := by
  obtain ⟨_, t', entries, d₁, d', values, -, typed', -, -, hd, hu, translated, hv, rfl⟩ :=
    merge_eq_ok hr
  obtain rfl := Option.some.inj (typed.symm.trans typed')
  obtain rfl := Except.ok.inj (h.described.symm.trans hu)
  have written : updatedValues d false (stamped now entity) = d.stampedValues now entity :=
    (h.storedValues_stamped typed now).1
  have apart : (Assoc.keys values).Nodup := by
    obtain ⟨given, -, made⟩ := Descriptor.translate_eq_ofNames translated
    exact made ▸ Assoc.nodup_keys_ofEntries given
  refine ⟨?_, mergeParameters d₁ d now identifier onCreate entity values, rfl, fun e he => ?_⟩
  · have text (key : String) : Clause.textOf (.assignment nodeVariable) onMatchPrefix key =
        nodeVariable ++ "." ++ key ++ "=$" ++ (onMatchPrefix ++ key) := by
      rw [Clause.textOf, Binding.ofEntry, Binding.text]
    have some : d.stampedValues now entity ≠ [] :=
      List.ne_nil_of_mem (h.mem_stampedValues now entity)
    have full : (Clause.ofValues (.assignment nodeVariable) onMatchPrefix
        (d.stampedValues now entity)).isEmpty = false := by
      simpa [Clause.isEmpty, Clause.ofValues] using some
    obtain ⟨hi, hc, hm⟩ := blank_notMem_clauses now identifier onCreate entity hd hu hv
    rw [Wording.assignments_match_merge d₁.label hi hc hm, written, full, if_neg Bool.false_ne_true,
      Clause.pieces_text_ofValues (fun _ hk => isIdentifier_of_mem_stampedValues h typed hk) some
        (by decide) (by decide), funext text]
  · -- The parameters of this branch are set last, so nothing takes their place.
    rw [lookup_mergeParameters now identifier onCreate entity apart,
      lookup_branchParameters_onMatch, written,
      Assoc.lookup_of_mem (h.nodup_keys_stampedValues now entity) he, Option.some_or]

/-- An update comes about for an entity that can be copied and described. -/
theorem exists_update {id : String} (given : Text.isBlank id = false)
    (copied : entity.requireFeature .copy = .ok ())
    (asked : entity.requireFeature .describe = .ok ()) (now : Float) (skipNull fetch : Bool) :
    ∃ r, update c now skipNull entity (.text id) fetch = .ok r := by
  have checked : Argument.entity "entity" entity = .ok t := by rw [Argument.entity, typed]
  have named : Argument.uuid "uuid" (.text id) = .ok id := Argument.uuid_of_not_blank given
  exact ⟨_, Outcome.bind_eq_ok.mpr ⟨t, checked, Outcome.bind_eq_ok.mpr ⟨id, named,
    Outcome.bind_eq_ok.mpr ⟨d, h.described, Outcome.bind_eq_ok.mpr ⟨(), copied,
      Outcome.bind_eq_ok.mpr ⟨(), asked, Outcome.bind_eq_ok.mpr
        ⟨_, Wording.render_update .., rfl⟩⟩⟩⟩⟩⟩⟩

end Updating

end Request

namespace Client

variable {σ : Type} [Database σ] {c : Catalog} {t : EntityRef} {d : Descriptor} {entity : Value}

/-- Whatever a full or a partial update sends is an update. -/
theorem updates_of_mem_statements (h : c.Updatable t d) (typed : entity.entityType? = some t)
    {w : World σ} {id : String} {operation : Operation} (skipNull fetch : Bool)
    (asks : operation.request c w.now w.nextIdentifier =
      Request.update c w.now skipNull entity (.text id) fetch)
    {sent : String × Value} (hs : sent ∈ (perform c operation).statements w) :
    Updates sent (Request.kept skipNull (d.stampedValues w.now entity)) id := by
  have quiet : ∀ r, operation.request c w.now w.nextIdentifier = .ok r →
      r.reading.looksUp = false ∧ ∃ parameters, r.parameters = .ofParameters parameters := by
    intro r hr
    obtain ⟨_, _, _, -, -, -, rfl⟩ := Request.update_eq_ok (asks.symm.trans hr)
    exact ⟨by cases fetch <;> rfl, _, rfl⟩
  obtain ⟨r, hr, rfl⟩ := mem_statements_of_not_looksUp operation quiet hs
  exact Request.updates_of_update h typed (asks.symm.trans hr)

end Client

namespace Example

/-- A user without an address, but with an identifier. -/
def quietUser : Value :=
  .entity user.ref
    [("uuid", .text "u7"), ("created_at", .float 0), ("updated_at", .null),
      ("is_deleted", .bool false), ("email", .null), ("friends", .list [])]

end Example

end GraphMapper
