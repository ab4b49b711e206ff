import GraphMapper.Proofs.Clause
import GraphMapper.Proofs.Descriptor
import GraphMapper.Proofs.Statement.Wording

/-!
# What an operation requests

An operation whose arguments pass all checks makes a request, and this file says which: one
lemma for each kind of request, with the wording of the statement, the parameters, and what
is read from the result. The lemmas are inversions. They start from a request that came
about and give back the arguments that made it, so nothing below them opens a checking
`do` block again.

Wherever values are bound, text and parameters come from one and the same
`GraphMapper.Clause.ofValues`; the identifier that a created node gets is one of its values
(`GraphMapper.Request.createdValues`).
-/

namespace GraphMapper

open Outcome

/-! ### Arguments that pass -/

namespace Argument

theorem entity_eq_ok {argument : String} {v : Value} {type : EntityRef}
    (h : entity argument v = .ok type) : v.entityType? = some type := by
  unfold entity at h
  split at h
  · next hv =>
    rw [hv]
    exact congrArg some (Except.ok.inj h)
  · cases h

theorem nonBlank_eq_ok {argument complaint : String} {v : Value} {s : String}
    (h : nonBlank argument complaint v = .ok s) : v = .text s ∧ Text.isBlank s = false := by
  unfold nonBlank at h
  split at h
  · split at h
    · cases h
    · next hb =>
      obtain rfl := Except.ok.inj h
      exact ⟨rfl, by simpa using hb⟩
  · cases h

theorem uuid_of_not_blank {argument s : String} (h : Text.isBlank s = false) :
    uuid argument (.text s) = .ok s := by
  rw [uuid, nonBlank, h]
  rfl

theorem properties_eq_ok {argument : String} {v : Value} {entries : Entries}
    (h : properties argument v = .ok entries) : v.mapping? = some entries ∧ entries ≠ [] := by
  unfold properties at h
  split at h
  · next hv =>
    obtain rfl := Except.ok.inj h
    exact ⟨hv, List.cons_ne_nil _ _⟩
  · cases h

theorem relationship_eq_ok {r? : Option Relationship} {r : Relationship}
    (h : relationship r? = .ok r) : r? = some r := by
  cases r? with
  | none => cases h
  | some r' => exact congrArg some (Except.ok.inj h)

theorem propertyValue_eq_ok {v w : Value} (h : propertyValue v = .ok w) :
    v = w ∧ v.isNull = false := by
  unfold propertyValue at h
  split at h
  · cases h
  · next hn => exact ⟨Except.ok.inj h, by simpa using hn⟩

/-- A type that is described as an argument is one that the catalog describes. -/
theorem entityType_eq_ok {c : Catalog} {v : Value} {type : EntityRef} {d : Descriptor}
    (h : entityType c v = .ok (type, d)) :
    v = .type (.entity type) ∧ c.describeRef type = .ok d := by
  obtain ⟨type', ht, h⟩ := bind_eq_ok.mp h
  obtain ⟨d', hd, h⟩ := bind_eq_ok.mp h
  cases pure_eq_ok.mp h
  exact ⟨Value.entityRef_eq_ok ht, hd⟩

end Argument

/-- A condition on values under names is the clause of these values. -/
theorem Clause.condition_ofNames {paramPrefix : String} {values : Parameters} {clause : Clause}
    (h : condition paramPrefix (Value.ofNames values) = .ok clause) :
    (∀ k ∈ Assoc.keys values, isIdentifier k.toList = true) ∧
      clause = ofValues .condition paramPrefix values := by
  obtain ⟨values', hv, hk, rfl⟩ := condition_eq_ok_iff.mp h
  obtain rfl := Value.ofNames_injective hv
  exact ⟨hk, rfl⟩

namespace Request

variable {c : Catalog} {now : Float} {identifier : String} {r : Request}

/-! ### Creating and updating nodes -/

/-- What a node is created with: the settable values of an entity, and its identifier. -/
def createdValues (d : Descriptor) (entity : Value) (identifier : String) : Parameters :=
  entity.storedValues d.settableFields ++ [(identifierKey, .text identifier)]

/-- The entity that an update writes. -/
def written (now : Float) (entity : Value) (uuid : String) : Value :=
  stamped now (entity.withAttr "uuid" (.text uuid))

/-- What a node is updated with: the updatable values of an entity, nulls left out if
wanted. -/
def updatedValues (d : Descriptor) (skipNull : Bool) (entity : Value) : Parameters :=
  let values := entity.storedValues d.updatableFields
  if skipNull then values.filter (!·.2.isNull) else values

theorem assignment_updatedValues (node paramPrefix : String) (d : Descriptor) (skipNull : Bool)
    (entity : Value) :
    Clause.assignment node paramPrefix skipNull (entity.storedValues d.updatableFields) =
      .ofValues (.assignment node) paramPrefix (updatedValues d skipNull entity) := by
  cases skipNull <;> rfl

/-- What a node is updated with is stored under identifiers. -/
theorem isIdentifier_of_mem_updatedValues {ref : EntityRef} {d : Descriptor}
    (hd : c.describeRef ref = .ok d) {skipNull : Bool} {entity : Value} {key : String}
    (hk : key ∈ Assoc.keys (updatedValues d skipNull entity)) :
    isIdentifier key.toList = true := by
  obtain ⟨e, he, rfl⟩ := List.mem_map.mp hk
  have stored : e ∈ entity.storedValues d.updatableFields := by
    cases skipNull with
    | false => exact he
    | true => exact List.mem_of_mem_filter he
  exact isIdentifier_of_mem_updatable hd (List.mem_map_of_mem stored)

/-- Stamping an entity makes the same attributes null, whatever the time. -/
theorem isNull_attr_stamped (now now' : Float) (entity : Value) (name : String) :
    ((stamped now entity).attr name).isNull = ((stamped now' entity).attr name).isNull := by
  cases entity with
  | entity type attributes =>
    by_cases hn : name = "updated_at"
    · subst hn
      simp [stamped, Value.withAttr, Value.attr, Value.attr?, Value.isNull]
    · simp only [stamped, Value.withAttr, Value.attr, Value.attr?, Assoc.lookup_set_of_ne hn]
  | _ => rfl

/-- **Which properties an update writes** depends on the entity only if nulls are left out,
and then only on which attributes are null. -/
theorem keys_updatedValues_congr (d : Descriptor) {skipNull : Bool} {entity entity' : Value}
    (h : skipNull = true → ∀ name, (entity.attr name).isNull = (entity'.attr name).isNull) :
    Assoc.keys (updatedValues d skipNull entity) =
      Assoc.keys (updatedValues d skipNull entity') := by
  cases skipNull with
  | false => exact Value.keys_storedValues_congr entity entity' d.updatableFields
  | true =>
    -- Of the values only their being null matters, and this goes through making a map.
    have nulls (e : Value) : (e.storedValues d.updatableFields).map (Prod.map id Value.isNull) =
        Assoc.ofEntries ((d.updatableFields.filter (·.isPersistable)).map fun f =>
          (f.key, (e.attr f.name).isNull)) := by
      rw [Value.storedValues, ← Assoc.ofEntries_map (f := id) (fun _ _ => rfl), List.map_map]
      rfl
    have kept (values : Parameters) : Assoc.keys (values.filter (!·.2.isNull)) =
        Assoc.keys ((values.map (Prod.map id Value.isNull)).filter (!·.2)) := by
      induction values with
      | nil => rfl
      | cons e rest ih => cases hn : e.2.isNull <;> simp [hn, ih]
    show Assoc.keys (List.filter _ _) = Assoc.keys (List.filter _ _)
    rw [kept, kept, nulls, nulls]
    simp only [h rfl]

theorem add_eq_ok {entity : Value} (h : add c identifier entity = .ok r) :
    ∃ type d, entity.entityType? = some type ∧ c.describeRef type = .ok d ∧
      r = ⟨Wording.create d.label.text
          (Clause.ofValues .condition "" (createdValues d entity identifier)).text,
        .ofParameters
          (Clause.ofValues .condition "" (createdValues d entity identifier)).parameters,
        .createdNode type d.label.text identifier⟩ := by
  obtain ⟨type, ht, h⟩ := bind_eq_ok.mp h
  obtain ⟨d, hd, h⟩ := bind_eq_ok.mp h
  obtain ⟨clause, hc, h⟩ := bind_eq_ok.mp h
  obtain ⟨-, rfl⟩ := Clause.condition_ofNames hc
  obtain rfl := eq_of_bind_pure (Wording.render_create ..) h
  have joined := Clause.joinClauses_ofValues .condition "" (entity.storedValues d.settableFields)
    identifierKey (.text identifier)
  refine ⟨type, d, Argument.entity_eq_ok ht, hd, ?_⟩
  rw [createdValues, ← joined, Clause.parameters_ofValues_concat]
  rfl

theorem update_eq_ok {skipNull fetch : Bool} {entity uuid : Value}
    (h : update c now skipNull entity uuid fetch = .ok r) :
    ∃ type id d, entity.entityType? = some type ∧ uuid = .text id ∧ c.describeRef type = .ok d ∧
      r = ⟨Wording.update d.label.text
          (Clause.ofValues (.assignment nodeVariable) ""
            (updatedValues d skipNull (written now entity id))).text
          (if fetch then "RETURN " ++ nodeVariable else ""),
        .ofParameters (Assoc.set identifierKey (.text id)
          (Clause.ofValues (.assignment nodeVariable) ""
            (updatedValues d skipNull (written now entity id))).parameters),
        if fetch then .node type else .nothing⟩ := by
  obtain ⟨type, ht, h⟩ := bind_eq_ok.mp h
  obtain ⟨id, hu, h⟩ := bind_eq_ok.mp h
  obtain ⟨d, hd, h⟩ := bind_eq_ok.mp h
  obtain ⟨_, -, h⟩ := bind_eq_ok.mp h
  obtain ⟨_, -, h⟩ := bind_eq_ok.mp h
  obtain rfl := eq_of_bind_pure (Wording.render_update ..) h
  refine ⟨type, id, d, Argument.entity_eq_ok ht, (Argument.nonBlank_eq_ok hu).1, hd, ?_⟩
  rw [← assignment_updatedValues]
  rfl

/-- The assignments to a node that is there, if there are any. -/
def onMatch (updated : Clause) : String :=
  if updated.isEmpty then "" else "ON MATCH SET " ++ updated.text

theorem merge_eq_ok {onCreate onUpdate properties : Value}
    (h : merge c now identifier onCreate onUpdate properties = .ok r) :
    ∃ type updatedType entries d u values, onCreate.entityType? = some type ∧
      onUpdate.entityType? = some updatedType ∧ properties.mapping? = some entries ∧
      entries ≠ [] ∧ c.describeRef type = .ok d ∧ c.describeRef updatedType = .ok u ∧
      d.translate entries = Value.ofNames values ∧
      (∀ k ∈ Assoc.keys values, isIdentifier k.toList = true) ∧
      r = ⟨Wording.merge d.label.text (Clause.ofValues .condition "" values).text
          ("ON CREATE SET " ++ (Clause.ofValues (.assignment nodeVariable) onCreatePrefix
            (createdValues d onCreate identifier)).text)
          (onMatch (.ofValues (.assignment nodeVariable) onMatchPrefix
            (updatedValues u false (stamped now onUpdate)))),
        .ofParameters (Assoc.update (Assoc.update
          (Clause.ofValues .condition "" values).parameters
          (Clause.ofValues (.assignment nodeVariable) onCreatePrefix
            (createdValues d onCreate identifier)).parameters)
          (Clause.ofValues (.assignment nodeVariable) onMatchPrefix
            (updatedValues u false (stamped now onUpdate))).parameters),
        .node type⟩ := by
  obtain ⟨type, ht, h⟩ := bind_eq_ok.mp h
  obtain ⟨updatedType, hut, h⟩ := bind_eq_ok.mp h
  obtain ⟨entries, hp, h⟩ := bind_eq_ok.mp h
  obtain ⟨d, hd, h⟩ := bind_eq_ok.mp h
  obtain ⟨condition, hc, h⟩ := bind_eq_ok.mp h
  obtain ⟨values, hv, hk, rfl⟩ := Clause.condition_eq_ok_iff.mp hc
  obtain ⟨_, -, h⟩ := bind_eq_ok.mp h
  obtain ⟨_, -, h⟩ := bind_eq_ok.mp h
  obtain ⟨u, hu, h⟩ := bind_eq_ok.mp h
  obtain rfl := eq_of_bind_pure (Wording.render_merge ..) h
  obtain ⟨hp, hne⟩ := Argument.properties_eq_ok hp
  refine ⟨type, updatedType, entries, d, u, values, Argument.entity_eq_ok ht,
    Argument.entity_eq_ok hut, hp, hne, hd, hu, hv, hk, ?_⟩
  -- The identifier is the last of the values for a new node, in the text and in the parameters.
  have joined := Clause.joinClauses_ofValues (.assignment nodeVariable) onCreatePrefix
    (onCreate.storedValues d.settableFields) identifierKey (.text identifier)
  have fresh : onCreatePrefix ++ identifierKey ∉ Assoc.keys
      (Clause.ofValues (.assignment nodeVariable) onCreatePrefix
        (onCreate.storedValues d.settableFields)).parameters := by
    rw [Clause.mem_keys_parameters_ofValues]
    rintro ⟨key, hkey, he⟩
    obtain rfl := (String.append_right_inj _).mp he
    exact Descriptor.identifierKey_notMem_settable d onCreate hkey
  rw [createdValues, ← joined, Clause.parameters_ofValues_concat,
    Assoc.update_set_of_notMem fresh]
  rfl

/-! ### Removing and reading nodes -/

theorem delete_eq_ok {type uuid : Value} (h : delete c now type uuid = .ok r) :
    ∃ id t d, uuid = .text id ∧ type = .type (.entity t) ∧ c.describeRef t = .ok d ∧
      r = ⟨Wording.delete d.label.text,
        .ofParameters [(identifierKey, .text id), (updatedAtKey, .float now)], .node t⟩ := by
  obtain ⟨id, hu, h⟩ := bind_eq_ok.mp h
  obtain ⟨⟨t, d⟩, htd, h⟩ := bind_eq_ok.mp h
  obtain rfl := eq_of_bind_pure (Wording.render_delete ..) h
  obtain ⟨ht, hd⟩ := Argument.entityType_eq_ok htd
  exact ⟨id, t, d, (Argument.nonBlank_eq_ok hu).1, ht, hd, rfl⟩

theorem drop_eq_ok {type uuid : Value} (h : drop c type uuid = .ok r) :
    ∃ id d, uuid = .text id ∧ c.describe type = .ok d ∧
      r = ⟨Wording.drop d.label.text, .ofParameters [(identifierKey, .text id)],
        .droppedOne⟩ := by
  obtain ⟨id, hu, h⟩ := bind_eq_ok.mp h
  obtain ⟨d, hd, h⟩ := bind_eq_ok.mp h
  obtain rfl := eq_of_bind_pure (Wording.render_drop ..) h
  exact ⟨id, d, (Argument.nonBlank_eq_ok hu).1, hd, rfl⟩

theorem dropByProperties_eq_ok {type properties : Value}
    (h : dropByProperties c type properties = .ok r) :
    ∃ entries d values, properties.mapping? = some entries ∧ entries ≠ [] ∧
      c.describe type = .ok d ∧ d.translate entries = Value.ofNames values ∧
      (∀ k ∈ Assoc.keys values, isIdentifier k.toList = true) ∧
      r = ⟨Wording.dropByProperties d.label.text (Clause.ofValues .condition "" values).text,
        .ofParameters (Clause.ofValues .condition "" values).parameters, .droppedCount⟩ := by
  obtain ⟨entries, hp, h⟩ := bind_eq_ok.mp h
  obtain ⟨d, hd, h⟩ := bind_eq_ok.mp h
  obtain ⟨clause, hc, h⟩ := bind_eq_ok.mp h
  obtain ⟨values, hv, hk, rfl⟩ := Clause.condition_eq_ok_iff.mp hc
  obtain rfl := eq_of_bind_pure (Wording.render_dropByProperties ..) h
  obtain ⟨hp, hne⟩ := Argument.properties_eq_ok hp
  exact ⟨entries, d, values, hp, hne, hd, hv, hk, rfl⟩

theorem getByProperties_eq_ok {type properties : Value}
    (h : getByProperties c type properties = .ok r) :
    ∃ entries t d values, properties.mapping? = some entries ∧ entries ≠ [] ∧
      type = .type (.entity t) ∧ c.describeRef t = .ok d ∧
      d.translate entries = Value.ofNames values ∧
      (∀ k ∈ Assoc.keys values, isIdentifier k.toList = true) ∧
      r = ⟨Wording.getByProperties d.label.text (Clause.ofValues .condition "" values).text ""
          nodeVariable,
        .ofParameters (Clause.ofValues .condition "" values).parameters,
        .nodesWithRelated t⟩ := by
  obtain ⟨entries, hp, h⟩ := bind_eq_ok.mp h
  obtain ⟨⟨t, d⟩, htd, h⟩ := bind_eq_ok.mp h
  obtain ⟨clause, hc, h⟩ := bind_eq_ok.mp h
  obtain ⟨values, hv, hk, rfl⟩ := Clause.condition_eq_ok_iff.mp hc
  obtain rfl := eq_of_bind_pure (Wording.render_getByProperties ..) h
  obtain ⟨hp, hne⟩ := Argument.properties_eq_ok hp
  obtain ⟨ht, hd⟩ := Argument.entityType_eq_ok htd
  exact ⟨entries, t, d, values, hp, hne, ht, hd, hv, hk, rfl⟩

theorem getByProperty_eq_ok {type name value : Value}
    (h : getByProperty c type name value = .ok r) :
    ∃ property t d key, name = .text property ∧ type = .type (.entity t) ∧
      c.describeRef t = .ok d ∧ d.graphKey (.text property) = .text key ∧
      isIdentifier key.toList = true ∧
      r = ⟨Wording.getByProperty d.label.text key, .ofParameters [("value", value)],
        .nodesWithRelated t⟩ := by
  obtain ⟨property, hn, h⟩ := bind_eq_ok.mp h
  obtain ⟨value, hv, h⟩ := bind_eq_ok.mp h
  obtain ⟨⟨t, d⟩, htd, h⟩ := bind_eq_ok.mp h
  obtain ⟨key, hk, h⟩ := bind_eq_ok.mp h
  obtain rfl := eq_of_bind_pure (Wording.nodesByProperty_eq ..) h
  obtain ⟨ht, hd⟩ := Argument.entityType_eq_ok htd
  obtain ⟨rfl, -⟩ := Argument.propertyValue_eq_ok hv
  exact ⟨property, t, d, key.text, (Argument.nonBlank_eq_ok hn).1, ht, hd,
    Identifier.require_eq_ok_iff.mp hk, key.accepted, rfl⟩

theorem getAll_eq_ok {type : Value} (h : getAll c type = .ok r) :
    ∃ t d, type = .type (.entity t) ∧ c.describeRef t = .ok d ∧
      r = ⟨Wording.getAll d.label.text, .ofParameters [], .nodesWithRelated t⟩ := by
  obtain ⟨⟨t, d⟩, htd, h⟩ := bind_eq_ok.mp h
  obtain rfl := eq_of_bind_pure (Wording.render_getAll ..) h
  obtain ⟨ht, hd⟩ := Argument.entityType_eq_ok htd
  exact ⟨t, d, ht, hd, rfl⟩

theorem getByUuid_eq_ok {type uuid : Value} (h : getByUuid c type uuid = .ok r) :
    ∃ id t d, uuid = .text id ∧ type = .type (.entity t) ∧ c.describeRef t = .ok d ∧
      r = ⟨Wording.getByProperty d.label.text identifierKey, .ofParameters [("value", .text id)],
        .nodeWithRelated t⟩ := by
  obtain ⟨id, hu, h⟩ := bind_eq_ok.mp h
  obtain ⟨⟨t, d⟩, htd, h⟩ := bind_eq_ok.mp h
  obtain rfl := eq_of_bind_pure (Wording.nodesByProperty_eq ..) h
  obtain ⟨ht, hd⟩ := Argument.entityType_eq_ok htd
  exact ⟨id, t, d, (Argument.nonBlank_eq_ok hu).1, ht, hd, rfl⟩

/-! ### Edges and labels -/

/-- The condition on the properties of an edge, in braces if there are any. -/
def braced (clause : Clause) : String :=
  if clause.isEmpty then "" else "\x7b" ++ clause.text ++ "\x7d"

/-- The properties that an edge gets: none for anything empty. -/
theorem edgeClause_eq_ok {properties : Value} {clause : Clause}
    (h : edgeClause properties = .ok clause) :
    ∃ values, (if properties.truthy then properties.entries? else some []) =
        some (Value.ofNames values) ∧
      (∀ k ∈ Assoc.keys values, isIdentifier k.toList = true) ∧
      clause = .ofValues .condition relationshipPrefix values := by
  unfold edgeClause at h
  split at h
  · next ht =>
    obtain ⟨values, hv, hk, rfl⟩ := Clause.condition_eq_ok_iff.mp h
    exact ⟨values, by rw [← hv, if_neg (by simpa using ht)], hk, rfl⟩
  · next ht =>
    split at h
    · next entries he =>
      obtain ⟨values, rfl, hk, rfl⟩ := Clause.condition_eq_ok_iff.mp h
      exact ⟨values, by rw [if_pos (by simpa using ht), he], hk, rfl⟩
    · cases h

/-- An edge is created with the clause that its properties make. -/
theorem exists_edgeClause {fromUuid toUuid properties : Value} {edge? : Option Relationship}
    (h : createRelationship fromUuid toUuid edge? properties = .ok r) :
    ∃ fromId toId edge clause, fromUuid = .text fromId ∧ toUuid = .text toId ∧
      edge? = some edge ∧ edgeClause properties = .ok clause ∧
      r = ⟨Wording.createRelationship edge (braced clause),
        .ofParameters (Assoc.update [("uuidFrom", .text fromId), ("uuidTo", .text toId)]
          clause.parameters), .createdEdge⟩ := by
  obtain ⟨fromId, hf, h⟩ := bind_eq_ok.mp h
  obtain ⟨toId, ht, h⟩ := bind_eq_ok.mp h
  obtain ⟨edge, he, h⟩ := bind_eq_ok.mp h
  obtain ⟨clause, hc, h⟩ := bind_eq_ok.mp h
  obtain rfl := eq_of_bind_pure (Wording.render_createRelationship ..) h
  exact ⟨fromId, toId, edge, clause, (Argument.nonBlank_eq_ok hf).1,
    (Argument.nonBlank_eq_ok ht).1, Argument.relationship_eq_ok he, hc, rfl⟩

theorem createRelationship_eq_ok {fromUuid toUuid properties : Value} {edge? : Option Relationship}
    (h : createRelationship fromUuid toUuid edge? properties = .ok r) :
    ∃ fromId toId edge values, fromUuid = .text fromId ∧ toUuid = .text toId ∧
      edge? = some edge ∧
      (if properties.truthy then properties.entries? else some []) = some (Value.ofNames values) ∧
      (∀ k ∈ Assoc.keys values, isIdentifier k.toList = true) ∧
      r = ⟨Wording.createRelationship edge
          (braced (.ofValues .condition relationshipPrefix values)),
        .ofParameters (Assoc.update [("uuidFrom", .text fromId), ("uuidTo", .text toId)]
          (Clause.ofValues .condition relationshipPrefix values).parameters), .createdEdge⟩ := by
  obtain ⟨fromId, toId, edge, clause, hf, ht, he, hc, rfl⟩ := exists_edgeClause h
  obtain ⟨values, hv, hk, rfl⟩ := edgeClause_eq_ok hc
  exact ⟨fromId, toId, edge, values, hf, ht, he, hv, hk, rfl⟩

theorem mergeRelationship_eq_ok {fromUuid toUuid : Value} {edge? : Option Relationship}
    (h : mergeRelationship fromUuid toUuid edge? = .ok r) :
    ∃ fromId toId edge, fromUuid = .text fromId ∧ toUuid = .text toId ∧ edge? = some edge ∧
      r = ⟨Wording.mergeRelationship edge,
        .ofParameters [("uuidFrom", .text fromId), ("uuidTo", .text toId)], .createdEdge⟩ := by
  obtain ⟨fromId, hf, h⟩ := bind_eq_ok.mp h
  obtain ⟨toId, ht, h⟩ := bind_eq_ok.mp h
  obtain ⟨edge, he, h⟩ := bind_eq_ok.mp h
  obtain rfl := eq_of_bind_pure (Wording.render_mergeRelationship ..) h
  exact ⟨fromId, toId, edge, (Argument.nonBlank_eq_ok hf).1, (Argument.nonBlank_eq_ok ht).1,
    Argument.relationship_eq_ok he, rfl⟩

theorem dropRelationship_eq_ok {incomingUuid outgoingUuid : Value} {edge? : Option Relationship}
    (h : dropRelationship incomingUuid outgoingUuid edge? = .ok r) :
    ∃ incoming outgoing edge, incomingUuid = .text incoming ∧ outgoingUuid = .text outgoing ∧
      edge? = some edge ∧
      r = ⟨Wording.dropRelationship edge,
        .ofParameters [("uuidIncoming", .text incoming), ("uuidOutgoing", .text outgoing)],
        .droppedEdge⟩ := by
  obtain ⟨incoming, hf, h⟩ := bind_eq_ok.mp h
  obtain ⟨outgoing, ht, h⟩ := bind_eq_ok.mp h
  obtain ⟨edge, he, h⟩ := bind_eq_ok.mp h
  obtain rfl := eq_of_bind_pure (Wording.render_dropRelationship ..) h
  exact ⟨incoming, outgoing, edge, (Argument.nonBlank_eq_ok hf).1,
    (Argument.nonBlank_eq_ok ht).1, Argument.relationship_eq_ok he, rfl⟩

theorem addLabel_eq_ok {uuid label : Value} (h : addLabel uuid label = .ok r) :
    ∃ id i : _, uuid = .text id ∧ label = .text (Identifier.text i) ∧
      r = ⟨Wording.addLabel i.text, .ofParameters [(identifierKey, .text id)],
        .addedLabel i.text id⟩ := by
  obtain ⟨id, hu, h⟩ := bind_eq_ok.mp h
  obtain ⟨name, hl, h⟩ := bind_eq_ok.mp h
  obtain ⟨i, hi, h⟩ := bind_eq_ok.mp h
  obtain rfl := eq_of_bind_pure (Wording.render_addLabel ..) h
  obtain ⟨rfl, -⟩ := Argument.nonBlank_eq_ok hl
  exact ⟨id, i, (Argument.nonBlank_eq_ok hu).1, Identifier.require_eq_ok_iff.mp hi, rfl⟩

end Request

end GraphMapper
