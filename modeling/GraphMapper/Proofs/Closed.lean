import GraphMapper.Proofs.Sending

/-!
# Statements are closed

Text and parameters of a statement are put together apart from each other: templates name
some parameters outright, clauses name others after properties and prefixes, and the
operation adds the identifiers of nodes by hand. They have to meet all the same. A statement
is **closed** if the names that follow dollar signs in its text are exactly the names of its
parameters. Requests are (`GraphMapper.Operation.closed_request`), and so are lookups, so
whatever an operation sends is closed.

One thing is asked of the arguments. An identifier may end in a line feed, and a property that
does would be bound under a name that the text cannot refer to. So the properties after which
parameters are named have to be plain names. Nothing is asked of labels, of the names of
edges, or of the one property by which nodes are read: no parameter is named after them.
-/

namespace GraphMapper

open GraphMapper.Action Statement

/-- A statement that refers to all of its parameters and to no others. -/
def Closed (statement : String) (parameters : Value) : Prop :=
  ∃ values : Parameters, parameters = .ofParameters values ∧
    ∀ name, name ∈ references statement ↔ name ∈ Assoc.keys values

/-! ### What each wording refers to -/

theorem Identifier.dollar_notMem (i : Identifier) : '$' ∉ i.text.toList :=
  i.notMem (by decide) (by decide)

namespace Relationship

theorem dollar_notMem_fromPart (r : Relationship) : '$' ∉ r.fromPart.toList := by
  unfold fromPart
  cases r.direction <;> decide

theorem dollar_notMem_toPart (r : Relationship) : '$' ∉ r.toPart.toList := by
  unfold toPart
  cases r.direction <;> decide

theorem dollar_notMem_pattern (r : Relationship) : '$' ∉ r.pattern.toList := by
  simp only [pattern, String.toList_append, List.mem_append, not_or]
  exact ⟨⟨⟨⟨r.dollar_notMem_fromPart, by decide⟩, r.name.dollar_notMem⟩, by decide⟩,
    r.dollar_notMem_toPart⟩

end Relationship

namespace Wording

/-! The labels and arrows of a wording refer to nothing; what is left are its clauses, and the
parameters that it names outright. -/

theorem references_label {verb : String} (hv : '$' ∉ verb.toList) (label : Identifier)
    (rest : String) : references (verb ++ (label.text ++ rest)) = references rest := by
  rw [references_append_of_notMem hv, references_append_of_notMem label.dollar_notMem]

/-- An edge refers to nothing, up to its name. -/
theorem references_edge (r : Relationship) {bracket : String} (hb : '$' ∉ bracket.toList)
    (rest : String) :
    references (r.fromPart ++ (bracket ++ (r.name.text ++ rest))) = references rest := by
  rw [references_append_of_notMem r.dollar_notMem_fromPart, references_append_of_notMem hb,
    references_append_of_notMem r.name.dollar_notMem]

/-- The rest of an edge refers to what follows it. -/
theorem references_arrowhead (r : Relationship) (rest : String) :
    references ("]" ++ (r.toPart ++ rest)) = references rest := by
  rw [references_append_of_notMem (by decide), references_append_of_notMem r.dollar_notMem_toPart]

theorem references_create (label : Identifier) (conditions : String) :
    references (create label.text conditions) = references conditions := by
  rw [create, references_label (by decide), references_append_of_notMem (by decide),
    references_to_end (by decide)]

theorem references_merge (label : Identifier) (conditions onCreate onMatch : String) :
    references (merge label.text conditions onCreate onMatch) =
      references conditions ++ (references onCreate ++ references onMatch) := by
  rw [merge, references_label (by decide), references_append_of_notMem (by decide),
    references_past (by decide), references_past (by decide), references_to_end (by decide)]

theorem references_getAll (label : Identifier) : references (getAll label.text) = [] := by
  rw [getAll, references_label (by decide), references_eq_nil (by decide)]

theorem references_getByProperty (label : Identifier) {property : String}
    (hp : isIdentifier property.toList = true) :
    references (getByProperty label.text property) = ["value"] := by
  have plain : '$' ∉ property.toList := notMem_of_isIdentifier hp (by decide) (by decide)
  rw [getByProperty, references_label (by decide), references_append_of_notMem (by decide),
    references_append_of_notMem plain]
  decide

theorem references_getByProperties (label : Identifier) (clause : String) {path result : String}
    (hp : '$' ∉ path.toList) (hr : '$' ∉ result.toList) :
    references (getByProperties label.text clause path result) = references clause := by
  rw [getByProperties, references_label (by decide), references_append_of_notMem (by decide),
    references_past (by decide), references_append_of_notMem hp,
    references_append_of_notMem (by decide), references_eq_nil hr, List.append_nil]

theorem references_update (label : Identifier) (clause ending : String)
    (he : '$' ∉ ending.toList) :
    references (update label.text clause ending) = "Uuid" :: references clause := by
  have given : references "\x7bUuid:$Uuid,IsDeleted:false\x7d) SET " = ["Uuid"] := by decide
  rw [update, references_label (by decide),
    references_append_of_ended (by decide), given,
    references_past (by decide), references_eq_nil he, List.append_nil]
  rfl

theorem references_delete (label : Identifier) :
    references (delete label.text) = ["Uuid", "UpdatedAt"] := by
  rw [delete, references_label (by decide)]
  decide

theorem references_drop (label : Identifier) : references (drop label.text) = ["Uuid"] := by
  rw [drop, references_label (by decide)]
  decide

theorem references_dropByProperties (label : Identifier) (clause : String) :
    references (dropByProperties label.text clause) = references clause := by
  rw [dropByProperties, references_label (by decide), references_append_of_notMem (by decide),
    references_to_end (by decide)]

theorem references_ends_append (s : String) :
    references (ends ++ s) = "uuidFrom" :: "uuidTo" :: references s := by
  have given : references ends = ["uuidFrom", "uuidTo"] := by decide
  rw [references_append_of_ended (by decide), given]
  rfl

theorem references_createRelationship (r : Relationship) (clause : String) :
    references (createRelationship r clause) =
      "uuidFrom" :: "uuidTo" :: references clause := by
  have tail : '$' ∉ (r.toPart ++ "(to) RETURN r").toList := by
    simp only [String.toList_append, List.mem_append, not_or]
    exact ⟨r.dollar_notMem_toPart, by decide⟩
  rw [createRelationship, references_ends_append, references_append_of_notMem (by decide),
    references_edge r (by decide), references_past (by decide), references_eq_nil tail,
    List.append_nil]

theorem references_mergeRelationship (r : Relationship) :
    references (mergeRelationship r) = ["uuidFrom", "uuidTo"] := by
  rw [mergeRelationship, references_ends_append, references_append_of_notMem (by decide),
    references_edge r (by decide), references_arrowhead, references_eq_nil (by decide)]

theorem references_dropRelationship (r : Relationship) :
    references (dropRelationship r) = ["uuidIncoming", "uuidOutgoing"] := by
  have start : references "MATCH (\x7bUuid:$uuidIncoming\x7d)" = ["uuidIncoming"] := by decide
  have finish : references "(\x7bUuid:$uuidOutgoing\x7d) DELETE r" = ["uuidOutgoing"] := by decide
  unfold dropRelationship
  rw [references_append_of_ended (by decide), start,
    references_edge r (by decide), references_arrowhead, finish]
  rfl

theorem references_addLabel (label : Identifier) :
    references (addLabel label.text) = ["Uuid"] := by
  have start : references "MATCH (n\x7bUuid:$Uuid\x7d) SET n:" = ["Uuid"] := by decide
  unfold addLabel
  rw [references_append_of_ended (by decide), start,
    references_eq_nil label.dollar_notMem]
  rfl

theorem references_lookup (label : Identifier) (edge : Relationship) (related : Identifier) :
    references (lookup label.text edge related.text) = ["uuid"] := by
  have path : '$' ∉ (edge.pattern ++ Relationship.relatedNodePattern related.text).toList := by
    simp only [Relationship.relatedNodePattern, String.toList_append, List.mem_append, not_or]
    exact ⟨edge.dollar_notMem_pattern, ⟨⟨⟨⟨⟨by decide, by decide⟩, by decide⟩,
      related.dollar_notMem⟩, by decide⟩, by decide⟩, by decide⟩
  rw [lookup, references_getByProperties label _ path (by decide)]
  decide

end Wording

/-! ### Properties that name parameters -/

/-- An operation that runs a statement of the caller. -/
def Operation.isCustom : Operation → Bool
  | runQuery _ _ | runQueryAs _ _ _ => true
  | _ => false

/-- The parameters of a request are values by name, unless the caller gave them. -/
theorem Operation.exists_parameters {c : Catalog} {now : Float} {identifier : String}
    {operation : Operation} (ho : operation.isCustom = false) {r : Request}
    (h : operation.request c now identifier = .ok r) :
    ∃ parameters, r.parameters = .ofParameters parameters := by
  cases operation with
  | add entity =>
    obtain ⟨_, _, -, -, rfl⟩ := Request.add_eq_ok h
    exact ⟨_, rfl⟩
  | update entity uuid fetch =>
    obtain ⟨_, _, _, -, -, -, rfl⟩ := Request.update_eq_ok h
    exact ⟨_, rfl⟩
  | partialUpdate entity uuid fetch =>
    obtain ⟨_, _, _, -, -, -, rfl⟩ := Request.update_eq_ok h
    exact ⟨_, rfl⟩
  | merge onCreate onUpdate properties =>
    obtain ⟨_, _, _, _, _, _, -, -, -, -, -, -, -, -, rfl⟩ := Request.merge_eq_ok h
    exact ⟨_, rfl⟩
  | delete type uuid =>
    obtain ⟨_, _, _, -, -, -, rfl⟩ := Request.delete_eq_ok h
    exact ⟨_, rfl⟩
  | drop type uuid =>
    obtain ⟨_, _, -, -, rfl⟩ := Request.drop_eq_ok h
    exact ⟨_, rfl⟩
  | dropByProperties type properties =>
    obtain ⟨_, _, _, -, -, -, -, -, rfl⟩ := Request.dropByProperties_eq_ok h
    exact ⟨_, rfl⟩
  | getByProperty type name value =>
    obtain ⟨_, _, _, _, -, -, -, -, -, rfl⟩ := Request.getByProperty_eq_ok h
    exact ⟨_, rfl⟩
  | getByProperties type properties =>
    obtain ⟨_, _, _, _, -, -, -, -, -, -, rfl⟩ := Request.getByProperties_eq_ok h
    exact ⟨_, rfl⟩
  | getAll type =>
    obtain ⟨_, _, -, -, rfl⟩ := Request.getAll_eq_ok h
    exact ⟨_, rfl⟩
  | getByUuid type uuid =>
    obtain ⟨_, _, _, -, -, -, rfl⟩ := Request.getByUuid_eq_ok h
    exact ⟨_, rfl⟩
  | createRelationship fromUuid toUuid edge? properties =>
    obtain ⟨_, _, _, _, -, -, -, -, -, rfl⟩ := Request.createRelationship_eq_ok h
    exact ⟨_, rfl⟩
  | mergeRelationship fromUuid toUuid edge? =>
    obtain ⟨_, _, _, -, -, -, rfl⟩ := Request.mergeRelationship_eq_ok h
    exact ⟨_, rfl⟩
  | dropRelationship incomingUuid outgoingUuid edge? =>
    obtain ⟨_, _, _, -, -, -, rfl⟩ := Request.dropRelationship_eq_ok h
    exact ⟨_, rfl⟩
  | addLabel uuid label =>
    obtain ⟨_, _, -, -, rfl⟩ := Request.addLabel_eq_ok h
    exact ⟨_, rfl⟩
  | runQuery query parameters => cases ho
  | runQueryAs type query parameters => cases ho

/-- Names that depend on a descriptor, none if there is no descriptor. -/
def namesOf (described : Except Failure Descriptor) (names : Descriptor → List String) :
    List String :=
  match described with
  | .ok d => names d
  | .error _ => []

@[simp] theorem namesOf_ok (d : Descriptor) (names : Descriptor → List String) :
    namesOf (.ok d) names = names d :=
  rfl

/-- The properties that a property map stands for. -/
def Descriptor.translatedKeys (d : Descriptor) (properties : Value) : List String :=
  (Assoc.keys (d.translate (properties.mapping?.getD []))).filterMap Value.text?

/-- The properties after which the parameters of an operation are named. -/
def Operation.propertyKeys (c : Catalog) : Operation → List String
  | add entity => namesOf (c.describeEntity entity) fun d =>
    Assoc.keys (entity.storedValues d.settableFields)
  | update entity uuid _ => namesOf (c.describeEntity entity) fun d =>
    Assoc.keys (Request.updatedValues d false (Request.stamped 0 (entity.withAttr "uuid" uuid)))
  | partialUpdate entity uuid _ => namesOf (c.describeEntity entity) fun d =>
    Assoc.keys (Request.updatedValues d true (Request.stamped 0 (entity.withAttr "uuid" uuid)))
  | merge onCreate onUpdate properties =>
    namesOf (c.describeEntity onCreate) (fun d => d.translatedKeys properties ++
      Assoc.keys (onCreate.storedValues d.settableFields)) ++
    namesOf (c.describeEntity onUpdate) fun u =>
      Assoc.keys (onUpdate.storedValues u.updatableFields)
  | dropByProperties type properties | getByProperties type properties =>
    namesOf (c.describe type) fun d => d.translatedKeys properties
  | createRelationship _ _ _ properties =>
    (Assoc.keys (properties.entries?.getD [])).filterMap Value.text?
  | _ => []

theorem Value.filterMap_text?_keys_ofNames (values : Parameters) :
    (Assoc.keys (ofNames values)).filterMap text? = Assoc.keys values := by
  rw [keys_ofNames, List.filterMap_map]
  exact List.filterMap_some

theorem Descriptor.translatedKeys_eq {d : Descriptor} {properties : Value} {entries : Entries}
    {values : Parameters} (hp : properties.mapping? = some entries)
    (hv : d.translate entries = Value.ofNames values) :
    d.translatedKeys properties = Assoc.keys values := by
  rw [translatedKeys, hp, Option.getD_some, hv, Value.filterMap_text?_keys_ofNames]

/-! ### Closed requests -/

/-- **A clause refers to what it binds**, if its properties are plain names. -/
theorem Clause.mem_references_text_iff {form : ClauseForm} {paramPrefix : String}
    {values : Parameters} (hf : '$' ∉ (subjectOf "" form).toList)
    (hp : paramPrefix = "" ∨ isName paramPrefix = true)
    (hv : ∀ k ∈ Assoc.keys values, isName k = true) (name : String) :
    name ∈ references (ofValues form paramPrefix values).text ↔
      name ∈ Assoc.keys (ofValues form paramPrefix values).parameters := by
  have plain (k : String) (hk : k ∈ Assoc.keys values) : isName (paramPrefix ++ k) = true := by
    rcases hp with rfl | hp
    · rw [String.empty_append]
      exact hv k hk
    · exact isName_append hp (hv k hk)
  have unmarked (k : String) (hk : k ∈ Assoc.keys values) : '$' ∉ (subjectOf k form).toList := by
    intro hm
    rcases mem_subjectOf hm with hm | hm
    · exact absurd (isIdentifierChar_of_mem (hv k hk) hm) (by decide)
    · exact hf hm
  rw [references_text_ofValues plain unmarked, mem_keys_parameters_ofValues, List.mem_map]

namespace Request

variable {c : Catalog} {now : Float} {identifier : String} {r : Request}

theorem isName_createdValues {d : Descriptor} {entity : Value}
    (hk : ∀ k ∈ Assoc.keys (entity.storedValues d.settableFields), isName k = true) :
    ∀ k ∈ Assoc.keys (createdValues d entity identifier), isName k = true := by
  intro k h
  rw [createdValues, Assoc.keys, List.map_append, List.mem_append] at h
  rcases h with h | h
  · exact hk k h
  · obtain rfl : k = identifierKey := by simpa using h
    decide

theorem closed_add {entity : Value} (h : add c identifier entity = .ok r)
    (hk : ∀ k ∈ (Operation.add entity).propertyKeys c, isName k = true) :
    Closed r.statement r.parameters := by
  obtain ⟨type, d, ht, hd, rfl⟩ := add_eq_ok h
  rw [Operation.propertyKeys, Catalog.describeEntity_eq ht hd, namesOf_ok] at hk
  refine ⟨_, rfl, fun name => ?_⟩
  rw [Wording.references_create]
  exact Clause.mem_references_text_iff (by decide) (.inl rfl) (isName_createdValues hk) name

theorem closed_update {skipNull fetch : Bool} {entity uuid : Value}
    (h : update c now skipNull entity uuid fetch = .ok r)
    (hk : ∀ k ∈ namesOf (c.describeEntity entity) fun d =>
      Assoc.keys (updatedValues d skipNull (stamped 0 (entity.withAttr "uuid" uuid))),
      isName k = true) : Closed r.statement r.parameters := by
  obtain ⟨type, id, d, ht, rfl, hd, rfl⟩ := update_eq_ok h
  -- At what time the entity is stamped makes no difference to its properties.
  have keys : Assoc.keys (updatedValues d skipNull
      (stamped 0 (entity.withAttr "uuid" (.text id)))) =
        Assoc.keys (updatedValues d skipNull (written now entity id)) :=
    keys_updatedValues_congr d fun _ => isNull_attr_stamped 0 now _
  rw [Catalog.describeEntity_eq ht hd, namesOf_ok, keys] at hk
  refine ⟨_, rfl, fun name => ?_⟩
  -- What is returned refers to nothing, whether or not anything is.
  have ending : '$' ∉ (if fetch then "RETURN " ++ nodeVariable else "").toList := by
    cases fetch <;> decide
  rw [Wording.references_update _ _ _ ending, List.mem_cons, Assoc.mem_keys_set,
    Clause.mem_references_text_iff (by decide) (.inl rfl) hk]
  rfl

theorem closed_merge {onCreate onUpdate properties : Value}
    (h : merge c now identifier onCreate onUpdate properties = .ok r)
    (hk : ∀ k ∈ (Operation.merge onCreate onUpdate properties).propertyKeys c,
      isName k = true) : Closed r.statement r.parameters := by
  obtain ⟨type, updatedType, entries, d, u, values, ht, hut, hp, -, hd, hu, hv, -, rfl⟩ :=
    merge_eq_ok h
  rw [Operation.propertyKeys, Catalog.describeEntity_eq ht hd, Catalog.describeEntity_eq hut hu,
    namesOf_ok, namesOf_ok, Descriptor.translatedKeys_eq hp hv] at hk
  simp only [List.mem_append] at hk
  have updatedKeys : ∀ k ∈ Assoc.keys (updatedValues u false (stamped now onUpdate)),
      isName k = true := by
    intro k h
    refine hk k (.inr ?_)
    rwa [Value.keys_storedValues_congr onUpdate (stamped now onUpdate)]
  refine ⟨_, rfl, fun name => ?_⟩
  -- A branch without assignments is not there; it refers to nothing, and binds nothing.
  have matched (clause : Clause) (h : clause.isEmpty = true → clause.text = "") :
      references (onMatch clause) = references clause.text := by
    unfold onMatch
    split
    · next he => rw [h he]
    · exact references_append_of_notMem (by decide) _
  have blank (values : Parameters) : (Clause.ofValues (.assignment nodeVariable) onMatchPrefix
      values).isEmpty = true → (Clause.ofValues (.assignment nodeVariable) onMatchPrefix
      values).text = "" := by
    cases values with
    | nil => exact fun _ => rfl
    | cons e rest => intro he; cases he
  rw [Wording.references_merge, matched _ (blank _), references_append_of_notMem (by decide),
    List.mem_append, List.mem_append, Assoc.mem_keys_update, Assoc.mem_keys_update, or_assoc,
    Clause.mem_references_text_iff (by decide) (.inl rfl) fun k h => hk k (.inl (.inl h)),
    Clause.mem_references_text_iff (by decide) (.inr (by decide))
      (isName_createdValues fun k h => hk k (.inl (.inr h))),
    Clause.mem_references_text_iff (by decide) (.inr (by decide)) updatedKeys]

theorem closed_dropByProperties {type properties : Value}
    (h : dropByProperties c type properties = .ok r)
    (hk : ∀ k ∈ (Operation.dropByProperties type properties).propertyKeys c, isName k = true) :
    Closed r.statement r.parameters := by
  obtain ⟨entries, d, values, hp, -, hd, hv, -, rfl⟩ := dropByProperties_eq_ok h
  rw [Operation.propertyKeys, hd, namesOf_ok, Descriptor.translatedKeys_eq hp hv] at hk
  refine ⟨_, rfl, fun name => ?_⟩
  rw [Wording.references_dropByProperties]
  exact Clause.mem_references_text_iff (by decide) (.inl rfl) hk name

theorem closed_getByProperties {type properties : Value}
    (h : getByProperties c type properties = .ok r)
    (hk : ∀ k ∈ (Operation.getByProperties type properties).propertyKeys c, isName k = true) :
    Closed r.statement r.parameters := by
  obtain ⟨entries, t, d, values, hp, -, rfl, hd, hv, -, rfl⟩ := getByProperties_eq_ok h
  have described : c.describe (.type (.entity t)) = .ok d := hd
  rw [Operation.propertyKeys, described, namesOf_ok, Descriptor.translatedKeys_eq hp hv] at hk
  refine ⟨_, rfl, fun name => ?_⟩
  rw [Wording.references_getByProperties _ _ (by decide) (by decide)]
  exact Clause.mem_references_text_iff (by decide) (.inl rfl) hk name

theorem closed_createRelationship {fromUuid toUuid properties : Value}
    {edge? : Option Relationship}
    (h : createRelationship fromUuid toUuid edge? properties = .ok r)
    (hk : ∀ k ∈ (Operation.createRelationship fromUuid toUuid edge? properties).propertyKeys c,
      isName k = true) : Closed r.statement r.parameters := by
  obtain ⟨fromId, toId, edge, values, -, -, -, hp, -, rfl⟩ := createRelationship_eq_ok h
  -- Anything empty stands for no properties, and then no parameter is named after one.
  have names : ∀ k ∈ Assoc.keys values, isName k = true := by
    split at hp
    · rw [Operation.propertyKeys, hp, Option.getD_some,
        Value.filterMap_text?_keys_ofNames] at hk
      exact hk
    · obtain rfl : values = [] := by simpa [Value.ofNames] using hp
      simp [Assoc.keys]
  have inside : references (braced (.ofValues .condition relationshipPrefix values)) =
      references (Clause.ofValues .condition relationshipPrefix values).text := by
    unfold braced
    split
    · next he =>
      obtain rfl : values = [] := by simpa [Clause.isEmpty, Clause.ofValues] using he
      rfl
    · rw [references_to_end (by decide), references_append_of_notMem (by decide)]
  refine ⟨_, rfl, fun name => ?_⟩
  rw [Wording.references_createRelationship, inside, List.mem_cons, List.mem_cons,
    Assoc.mem_keys_update, Clause.mem_references_text_iff (by decide) (.inr (by decide)) names,
    ← or_assoc]
  simp [Assoc.keys]

end Request

/-- **Requests are closed**: whatever an operation requests refers to what it binds, if the
properties that name parameters are plain names. -/
theorem Operation.closed_request {c : Catalog} {now : Float} {identifier : String}
    {operation : Operation} (ho : operation.isCustom = false) {r : Request}
    (h : operation.request c now identifier = .ok r)
    (hk : ∀ k ∈ operation.propertyKeys c, isName k = true) :
    Closed r.statement r.parameters := by
  cases operation with
  | add entity => exact Request.closed_add h hk
  | update entity uuid fetch => exact Request.closed_update h hk
  | partialUpdate entity uuid fetch => exact Request.closed_update h hk
  | merge onCreate onUpdate properties => exact Request.closed_merge h hk
  | delete type uuid =>
    obtain ⟨id, t, d, -, -, -, rfl⟩ := Request.delete_eq_ok h
    exact ⟨_, rfl, fun name => by rw [Wording.references_delete]; rfl⟩
  | drop type uuid =>
    obtain ⟨id, d, -, -, rfl⟩ := Request.drop_eq_ok h
    exact ⟨_, rfl, fun name => by rw [Wording.references_drop]; rfl⟩
  | dropByProperties type properties => exact Request.closed_dropByProperties h hk
  | getByProperty type name value =>
    obtain ⟨property, t, d, key, -, -, -, -, hkey, rfl⟩ := Request.getByProperty_eq_ok h
    exact ⟨_, rfl, fun name => by rw [Wording.references_getByProperty _ hkey]; rfl⟩
  | getByProperties type properties => exact Request.closed_getByProperties h hk
  | getAll type =>
    obtain ⟨t, d, -, -, rfl⟩ := Request.getAll_eq_ok h
    exact ⟨_, rfl, fun name => by rw [Wording.references_getAll]; rfl⟩
  | getByUuid type uuid =>
    obtain ⟨id, t, d, -, -, -, rfl⟩ := Request.getByUuid_eq_ok h
    have accepted : isIdentifier identifierKey.toList = true := by decide
    exact ⟨_, rfl, fun name => by rw [Wording.references_getByProperty _ accepted]; rfl⟩
  | createRelationship fromUuid toUuid edge? properties =>
    exact Request.closed_createRelationship h hk
  | mergeRelationship fromUuid toUuid edge? =>
    obtain ⟨fromId, toId, edge, -, -, -, rfl⟩ := Request.mergeRelationship_eq_ok h
    exact ⟨_, rfl, fun name => by rw [Wording.references_mergeRelationship]; rfl⟩
  | dropRelationship incomingUuid outgoingUuid edge? =>
    obtain ⟨incoming, outgoing, edge, -, -, -, rfl⟩ := Request.dropRelationship_eq_ok h
    exact ⟨_, rfl, fun name => by rw [Wording.references_dropRelationship]; rfl⟩
  | addLabel uuid label =>
    obtain ⟨id, i, -, -, rfl⟩ := Request.addLabel_eq_ok h
    exact ⟨_, rfl, fun name => by rw [Wording.references_addLabel]; rfl⟩
  | runQuery query parameters => cases ho
  | runQueryAs type query parameters => cases ho

/-- A lookup binds the identifier of the node that it starts from, and nothing else. -/
theorem IsLookup.closed {statement : String} {parameters : Value}
    (h : IsLookup statement parameters) : Closed statement parameters := by
  obtain ⟨label, edge, related, uuid, rfl, rfl⟩ := h
  exact ⟨_, rfl, fun name => by rw [Wording.references_lookup]; rfl⟩

namespace Client

variable {σ : Type} [Database σ]

/-- **Statements are closed.** Every statement that an operation sends, lookups included,
refers to exactly the parameters that are bound with it, if the properties that name
parameters are plain names. -/
theorem closed_of_mem_statements (c : Catalog) {operation : Operation}
    (ho : operation.isCustom = false)
    (hk : ∀ key ∈ operation.propertyKeys c, isName key = true) (w : World σ) :
    ∀ sent ∈ (perform c operation).statements w, Closed sent.1 sent.2 := by
  intro sent hsent
  obtain ⟨r, v, hr, -, hv⟩ := exists_request (List.ne_nil_of_mem hsent)
  have root := operation.closed_request ho hr hk
  obtain ⟨values, hp, -⟩ := id root
  -- The statement of the request is closed, and so is every lookup.
  have asks : Asks (Sends Closed) (send c r : Action σ Value) :=
    within_send (fun _ _ lookup => sends_execute lookup.closed) hp (sends_execute (hp ▸ root))
  rw [hv] at hsent
  exact asks.holds v sent hsent

/-- Reading users by their address sends a lookup as well, and both statements are closed. -/
theorem closed_of_mem_statements_users :
    ((perform Example.users (Example.lookFor "a@x")).statements
        (Example.connected [Example.oneUser])).length = 2 ∧
      ∀ sent ∈ (perform Example.users (Example.lookFor "a@x")).statements
        (Example.connected [Example.oneUser]), Closed sent.1 sent.2 := by
  refine ⟨by decide +kernel, closed_of_mem_statements _ rfl ?_ _⟩
  decide +kernel

end Client

end GraphMapper
