import GraphMapper.Proofs.Parallel

/-!
# Values stay out of texts

Two operations are **alike** if they differ in nothing but values: they are of one kind, for the
same types, with property maps that have the same keys in the same order, and with the same
names. What is different is what an observer of statement texts must not learn – the values of
properties and attributes, identifiers, the time – and this file says that it is not learned:
whatever two clients, databases and times are, alike operations send the same texts, as long as
the databases reply the same. So a value can reach the texts through a reply of a database at
most.

There are two steps. Alike operations make alike requests
(`GraphMapper.Operation.Alike.request`), because the text of a clause depends on its keys only;
and alike requests are sent in parallel (`GraphMapper.Client.texts_send_eq`).
-/

namespace GraphMapper

open GraphMapper.Action

/-! ### Alike operations -/

/-- The keys of a property map, in order; anything empty has none. -/
def Value.propertyNames? (v : Value) : Option (List Value) :=
  if v.truthy then v.entries?.map Assoc.keys else some []

/-- Two operations that differ in nothing but values. What runs a statement of the caller is
like nothing else. -/
inductive Operation.Alike : Operation → Operation → Prop where
  /-- Creating a node of one type. -/
  | add {entity entity' : Value} (type : entity.entityType? = entity'.entityType?) :
    Alike (.add entity) (.add entity')
  /-- Updating a node of one type. -/
  | update {entity entity' : Value} (uuid uuid' : Value) (fetch : Bool)
    (type : entity.entityType? = entity'.entityType?) :
    Alike (.update entity uuid fetch) (.update entity' uuid' fetch)
  /-- Updating the same attributes of a node of one type. -/
  | partialUpdate {entity entity' : Value} (uuid uuid' : Value) (fetch : Bool)
    (type : entity.entityType? = entity'.entityType?)
    (nulls : ∀ name, (entity.attr name).isNull = (entity'.attr name).isNull) :
    Alike (.partialUpdate entity uuid fetch) (.partialUpdate entity' uuid' fetch)
  /-- Merging nodes by the same properties. -/
  | merge {onCreate onCreate' onUpdate onUpdate' properties properties' : Value}
    (type : onCreate.entityType? = onCreate'.entityType?)
    (updatedType : onUpdate.entityType? = onUpdate'.entityType?)
    (names : properties.propertyNames? = properties'.propertyNames?) :
    Alike (.merge onCreate onUpdate properties) (.merge onCreate' onUpdate' properties')
  /-- Marking a node of one type as deleted. -/
  | delete (type uuid uuid' : Value) : Alike (.delete type uuid) (.delete type uuid')
  /-- Removing a node of one type. -/
  | drop (type uuid uuid' : Value) : Alike (.drop type uuid) (.drop type uuid')
  /-- Removing nodes by the same properties. -/
  | dropByProperties (type : Value) {properties properties' : Value}
    (names : properties.propertyNames? = properties'.propertyNames?) :
    Alike (.dropByProperties type properties) (.dropByProperties type properties')
  /-- Reading nodes by the same property. -/
  | getByProperty (type name value value' : Value) :
    Alike (.getByProperty type name value) (.getByProperty type name value')
  /-- Reading nodes by the same properties. -/
  | getByProperties (type : Value) {properties properties' : Value}
    (names : properties.propertyNames? = properties'.propertyNames?) :
    Alike (.getByProperties type properties) (.getByProperties type properties')
  /-- Reading all nodes of one type. -/
  | getAll (type : Value) : Alike (.getAll type) (.getAll type)
  /-- Reading a node of one type. -/
  | getByUuid (type uuid uuid' : Value) : Alike (.getByUuid type uuid) (.getByUuid type uuid')
  /-- Linking nodes by edges of one relationship with the same properties. -/
  | createRelationship (fromUuid fromUuid' toUuid toUuid' : Value)
    (relationship : Option Relationship) {properties properties' : Value}
    (names : properties.propertyNames? = properties'.propertyNames?) :
    Alike (.createRelationship fromUuid toUuid relationship properties)
      (.createRelationship fromUuid' toUuid' relationship properties')
  /-- Linking nodes by one relationship unless they are. -/
  | mergeRelationship (fromUuid fromUuid' toUuid toUuid' : Value)
    (relationship : Option Relationship) :
    Alike (.mergeRelationship fromUuid toUuid relationship)
      (.mergeRelationship fromUuid' toUuid' relationship)
  /-- Removing the edges of one relationship. -/
  | dropRelationship (incoming incoming' outgoing outgoing' : Value)
    (relationship : Option Relationship) :
    Alike (.dropRelationship incoming outgoing relationship)
      (.dropRelationship incoming' outgoing' relationship)
  /-- Adding one label. -/
  | addLabel (uuid uuid' label : Value) : Alike (.addLabel uuid label) (.addLabel uuid' label)

/-! ### The same names -/

namespace Value

theorem keys_eq_of_ofNames {values values' : Parameters}
    (h : Assoc.keys (ofNames values) = Assoc.keys (ofNames values')) :
    Assoc.keys values = Assoc.keys values' := by
  rw [keys_ofNames, keys_ofNames] at h
  exact List.map_injective_iff.mpr (fun _ _ => Value.text.inj) h

/-- A property map with entries has the names of its entries. -/
theorem propertyNames?_of_mapping? {v : Value} {entries : Entries}
    (h : v.mapping? = some entries) (hne : entries ≠ []) :
    v.propertyNames? = some (Assoc.keys entries) := by
  have present : entries.isEmpty = false := List.isEmpty_eq_false_iff.mpr hne
  cases v with
  | map | node =>
    obtain rfl := Option.some.inj h
    simp [propertyNames?, truthy, entries?, present]
  | _ => cases h

theorem propertyNames?_of_entries {v : Value} {entries : Entries}
    (h : (if v.truthy then v.entries? else some []) = some entries) :
    v.propertyNames? = some (Assoc.keys entries) := by
  unfold propertyNames?
  split
  · next ht =>
    rw [if_pos ht] at h
    rw [h, Option.map_some]
  · next ht =>
    rw [if_neg ht] at h
    obtain rfl := Option.some.inj h
    rfl

end Value

/-- Entries under the same names stand for the same properties. -/
theorem Descriptor.keys_translated_congr {d : Descriptor} {properties properties' : Value}
    {entries entries' : Entries} {values values' : Parameters}
    (names : properties.propertyNames? = properties'.propertyNames?)
    (hp : properties.mapping? = some entries) (hne : entries ≠ [])
    (hp' : properties'.mapping? = some entries') (hne' : entries' ≠ [])
    (hv : d.translate entries = Value.ofNames values)
    (hv' : d.translate entries' = Value.ofNames values') :
    Assoc.keys values = Assoc.keys values' := by
  rw [Value.propertyNames?_of_mapping? hp hne, Value.propertyNames?_of_mapping? hp' hne'] at names
  -- Entries that fall together do so because of their keys.
  refine Value.keys_eq_of_ofNames ?_
  rw [← hv, ← hv']
  refine Assoc.keys_ofEntries_congr ?_
  have renamed (entries : Entries) : Assoc.keys (entries.map fun e => (d.graphKey e.1, e.2)) =
      (Assoc.keys entries).map d.graphKey := by
    rw [Assoc.keys, Assoc.keys, List.map_map, List.map_map]
    rfl
  rw [renamed, renamed, Option.some.inj names]

namespace Request

theorem keys_createdValues_congr (d : Descriptor) (entity entity' : Value)
    (identifier identifier' : String) :
    Assoc.keys (createdValues d entity identifier) =
      Assoc.keys (createdValues d entity' identifier') := by
  have stored := Value.keys_storedValues_congr entity entity' d.settableFields
  rw [Assoc.keys, Assoc.keys] at stored
  rw [createdValues, createdValues, Assoc.keys, Assoc.keys, List.map_append, List.map_append,
    stored]
  rfl

theorem onMatch_congr {form : ClauseForm} {paramPrefix : String} {values values' : Parameters}
    (h : Assoc.keys values = Assoc.keys values') :
    onMatch (.ofValues form paramPrefix values) = onMatch (.ofValues form paramPrefix values') := by
  rw [onMatch, onMatch, Clause.isEmpty_ofValues_congr h, Clause.text_ofValues_congr h]

theorem braced_congr {form : ClauseForm} {paramPrefix : String} {values values' : Parameters}
    (h : Assoc.keys values = Assoc.keys values') :
    braced (.ofValues form paramPrefix values) = braced (.ofValues form paramPrefix values') := by
  rw [braced, braced, Clause.isEmpty_ofValues_congr h, Clause.text_ofValues_congr h]

/-! ### Alike requests -/

variable {c : Catalog} {now now' : Float} {identifier identifier' : String} {r r' : Request}

theorem Alike.of_not_looksUp (hs : r.statement = r'.statement) {values values' : Parameters}
    (hp : r.parameters = .ofParameters values) (hp' : r'.parameters = .ofParameters values')
    (hl : r.reading.looksUp = false) (hl' : r'.reading.looksUp = false) : r.Alike r' :=
  ⟨hs, ⟨_, hp⟩, ⟨_, hp'⟩, by rw [hl, hl'], fun h => absurd (hl.symm.trans h) (by decide)⟩

theorem alike_add {entity entity' : Value} (type : entity.entityType? = entity'.entityType?)
    (h : add c identifier entity = .ok r) (h' : add c identifier' entity' = .ok r') :
    r.Alike r' := by
  obtain ⟨t, d, ht, hd, rfl⟩ := add_eq_ok h
  obtain ⟨t', d', ht', hd', rfl⟩ := add_eq_ok h'
  obtain rfl : t = t' := Option.some.inj (ht.symm.trans (type.trans ht'))
  obtain rfl : d = d' := Except.ok.inj (hd.symm.trans hd')
  have keys := keys_createdValues_congr d entity entity' identifier identifier'
  refine .of_not_looksUp ?_ rfl rfl rfl rfl
  exact congrArg (Wording.create _) (Clause.text_ofValues_congr keys)

/-- The identifier and the time are written over whatever was there. -/
theorem isNull_attr_written {entity entity' : Value} (id id' name : String)
    (type : entity.entityType? = entity'.entityType?)
    (nulls : (entity.attr name).isNull = (entity'.attr name).isNull) :
    ((written now entity id).attr name).isNull = ((written now' entity' id').attr name).isNull := by
  rw [written, written, isNull_attr_stamped now now']
  cases entity with
  | entity t attributes =>
    cases entity' with
    | entity t' attributes' =>
      simp only [stamped, Value.withAttr, Value.attr, Value.attr?] at nulls ⊢
      by_cases hs : name = "updated_at"
      · rw [hs, Assoc.lookup_set_self, Assoc.lookup_set_self]
      rw [Assoc.lookup_set_of_ne hs, Assoc.lookup_set_of_ne hs]
      by_cases hi : name = "uuid"
      · rw [hi, Assoc.lookup_set_self, Assoc.lookup_set_self]
        rfl
      · rwa [Assoc.lookup_set_of_ne hi, Assoc.lookup_set_of_ne hi]
    | _ => cases type
  | _ =>
    cases entity' with
    | entity => cases type
    | _ => rfl

theorem alike_update {skipNull fetch : Bool} {entity entity' uuid uuid' : Value}
    (type : entity.entityType? = entity'.entityType?)
    (nulls : skipNull = true → ∀ name, (entity.attr name).isNull = (entity'.attr name).isNull)
    (h : update c now skipNull entity uuid fetch = .ok r)
    (h' : update c now' skipNull entity' uuid' fetch = .ok r') : r.Alike r' := by
  obtain ⟨t, id, d, ht, -, hd, rfl⟩ := update_eq_ok h
  obtain ⟨t', id', d', ht', -, hd', rfl⟩ := update_eq_ok h'
  obtain rfl : t = t' := Option.some.inj (ht.symm.trans (type.trans ht'))
  obtain rfl : d = d' := Except.ok.inj (hd.symm.trans hd')
  have keys : Assoc.keys (updatedValues d skipNull (written now entity id)) =
      Assoc.keys (updatedValues d skipNull (written now' entity' id')) :=
    keys_updatedValues_congr d fun hs name => isNull_attr_written id id' name type (nulls hs name)
  refine .of_not_looksUp ?_ rfl rfl ?_ ?_
  · dsimp only
    rw [Clause.text_ofValues_congr keys]
  · cases fetch <;> rfl
  · cases fetch <;> rfl

theorem alike_merge {onCreate onCreate' onUpdate onUpdate' properties properties' : Value}
    (type : onCreate.entityType? = onCreate'.entityType?)
    (updatedType : onUpdate.entityType? = onUpdate'.entityType?)
    (names : properties.propertyNames? = properties'.propertyNames?)
    (h : merge c now identifier onCreate onUpdate properties = .ok r)
    (h' : merge c now' identifier' onCreate' onUpdate' properties' = .ok r') : r.Alike r' := by
  obtain ⟨t, ut, _, d, u, _, ht, hut, hp, hne, hd, hu, hv, -, rfl⟩ := merge_eq_ok h
  obtain ⟨t', ut', _, d', u', _, ht', hut', hp', hne', hd', hu', hv', -, rfl⟩ := merge_eq_ok h'
  obtain rfl : t = t' := Option.some.inj (ht.symm.trans (type.trans ht'))
  obtain rfl : ut = ut' := Option.some.inj (hut.symm.trans (updatedType.trans hut'))
  obtain rfl : d = d' := Except.ok.inj (hd.symm.trans hd')
  obtain rfl : u = u' := Except.ok.inj (hu.symm.trans hu')
  have pattern := Descriptor.keys_translated_congr names hp hne hp' hne' hv hv'
  have created := keys_createdValues_congr d onCreate onCreate' identifier identifier'
  have updated : Assoc.keys (updatedValues u false (stamped now onUpdate)) =
      Assoc.keys (updatedValues u false (stamped now' onUpdate')) :=
    keys_updatedValues_congr u nofun
  refine .of_not_looksUp ?_ rfl rfl rfl rfl
  dsimp only
  rw [Clause.text_ofValues_congr pattern, Clause.text_ofValues_congr created,
    onMatch_congr updated]

theorem alike_createRelationship {fromUuid fromUuid' toUuid toUuid' properties properties' : Value}
    {edge? : Option Relationship} (names : properties.propertyNames? = properties'.propertyNames?)
    (h : createRelationship fromUuid toUuid edge? properties = .ok r)
    (h' : createRelationship fromUuid' toUuid' edge? properties' = .ok r') : r.Alike r' := by
  obtain ⟨_, _, edge, _, -, -, he, hv, -, rfl⟩ := createRelationship_eq_ok h
  obtain ⟨_, _, edge', _, -, -, he', hv', -, rfl⟩ := createRelationship_eq_ok h'
  obtain rfl : edge = edge' := Option.some.inj (he.symm.trans he')
  rw [Value.propertyNames?_of_entries hv, Value.propertyNames?_of_entries hv'] at names
  have keys := Value.keys_eq_of_ofNames (Option.some.inj names)
  refine .of_not_looksUp ?_ rfl rfl rfl rfl
  exact congrArg (Wording.createRelationship edge) (braced_congr keys)

end Request

/-- **Alike operations make alike requests**, at any two times and with any two identifiers. -/
theorem Operation.Alike.request {operation operation' : Operation}
    (alike : operation.Alike operation') {c : Catalog} {now now' : Float}
    {identifier identifier' : String} {r r' : Request}
    (h : operation.request c now identifier = .ok r)
    (h' : operation'.request c now' identifier' = .ok r') : r.Alike r' := by
  cases alike with
  | add type => exact Request.alike_add type h h'
  | update uuid uuid' fetch type => exact Request.alike_update type (by rintro ⟨⟩) h h'
  | partialUpdate uuid uuid' fetch type nulls =>
    exact Request.alike_update type (fun _ => nulls) h h'
  | merge type updatedType names => exact Request.alike_merge type updatedType names h h'
  | delete type uuid uuid' =>
    obtain ⟨_, t, d, -, rfl, hd, rfl⟩ := Request.delete_eq_ok h
    obtain ⟨_, t', d', -, ht, hd', rfl⟩ := Request.delete_eq_ok h'
    obtain rfl : t = t' := by simpa using ht
    obtain rfl : d = d' := Except.ok.inj (hd.symm.trans hd')
    exact .of_not_looksUp rfl rfl rfl rfl rfl
  | drop type uuid uuid' =>
    obtain ⟨_, d, -, hd, rfl⟩ := Request.drop_eq_ok h
    obtain ⟨_, d', -, hd', rfl⟩ := Request.drop_eq_ok h'
    obtain rfl : d = d' := Except.ok.inj (hd.symm.trans hd')
    exact .of_not_looksUp rfl rfl rfl rfl rfl
  | dropByProperties type names =>
    obtain ⟨_, d, _, hp, hne, hd, hv, -, rfl⟩ := Request.dropByProperties_eq_ok h
    obtain ⟨_, d', _, hp', hne', hd', hv', -, rfl⟩ := Request.dropByProperties_eq_ok h'
    obtain rfl : d = d' := Except.ok.inj (hd.symm.trans hd')
    have keys := Descriptor.keys_translated_congr names hp hne hp' hne' hv hv'
    refine .of_not_looksUp ?_ rfl rfl rfl rfl
    exact congrArg (Wording.dropByProperties _) (Clause.text_ofValues_congr keys)
  | getByProperty type name value value' =>
    obtain ⟨property, t, d, key, rfl, rfl, hd, hk, -, rfl⟩ := Request.getByProperty_eq_ok h
    obtain ⟨property', t', d', key', hn, ht, hd', hk', -, rfl⟩ := Request.getByProperty_eq_ok h'
    obtain rfl : property = property' := Value.text.inj hn
    obtain rfl : t = t' := by simpa using ht
    obtain rfl : d = d' := Except.ok.inj (hd.symm.trans hd')
    obtain rfl : key = key' := Value.text.inj (hk.symm.trans hk')
    exact ⟨rfl, ⟨_, rfl⟩, ⟨_, rfl⟩, rfl, fun _ => rfl⟩
  | getByProperties type names =>
    obtain ⟨_, t, d, _, hp, hne, rfl, hd, hv, -, rfl⟩ := Request.getByProperties_eq_ok h
    obtain ⟨_, t', d', _, hp', hne', ht, hd', hv', -, rfl⟩ := Request.getByProperties_eq_ok h'
    obtain rfl : t = t' := by simpa using ht
    obtain rfl : d = d' := Except.ok.inj (hd.symm.trans hd')
    have keys := Descriptor.keys_translated_congr names hp hne hp' hne' hv hv'
    exact ⟨by rw [Clause.text_ofValues_congr keys], ⟨_, rfl⟩, ⟨_, rfl⟩, rfl, fun _ => rfl⟩
  | getAll type =>
    obtain ⟨t, d, rfl, hd, rfl⟩ := Request.getAll_eq_ok h
    obtain ⟨t', d', ht, hd', rfl⟩ := Request.getAll_eq_ok h'
    obtain rfl : t = t' := by simpa using ht
    obtain rfl : d = d' := Except.ok.inj (hd.symm.trans hd')
    exact ⟨rfl, ⟨_, rfl⟩, ⟨_, rfl⟩, rfl, fun _ => rfl⟩
  | getByUuid type uuid uuid' =>
    obtain ⟨_, t, d, -, rfl, hd, rfl⟩ := Request.getByUuid_eq_ok h
    obtain ⟨_, t', d', -, ht, hd', rfl⟩ := Request.getByUuid_eq_ok h'
    obtain rfl : t = t' := by simpa using ht
    obtain rfl : d = d' := Except.ok.inj (hd.symm.trans hd')
    exact ⟨rfl, ⟨_, rfl⟩, ⟨_, rfl⟩, rfl, fun _ => rfl⟩
  | createRelationship _ _ _ _ _ names => exact Request.alike_createRelationship names h h'
  | mergeRelationship _ _ _ _ edge? =>
    obtain ⟨_, _, edge, -, -, he, rfl⟩ := Request.mergeRelationship_eq_ok h
    obtain ⟨_, _, edge', -, -, he', rfl⟩ := Request.mergeRelationship_eq_ok h'
    obtain rfl : edge = edge' := Option.some.inj (he.symm.trans he')
    exact .of_not_looksUp rfl rfl rfl rfl rfl
  | dropRelationship _ _ _ _ edge? =>
    obtain ⟨_, _, edge, -, -, he, rfl⟩ := Request.dropRelationship_eq_ok h
    obtain ⟨_, _, edge', -, -, he', rfl⟩ := Request.dropRelationship_eq_ok h'
    obtain rfl : edge = edge' := Option.some.inj (he.symm.trans he')
    exact .of_not_looksUp rfl rfl rfl rfl rfl
  | addLabel uuid uuid' label =>
    obtain ⟨_, i, -, hl, rfl⟩ := Request.addLabel_eq_ok h
    obtain ⟨_, i', -, hl', rfl⟩ := Request.addLabel_eq_ok h'
    have same : i.text = i'.text := Value.text.inj (hl.symm.trans hl')
    exact .of_not_looksUp (by dsimp only; rw [same]) rfl rfl rfl rfl

namespace Client

variable {σ σ' : Type} [Database σ] [Database σ']

/-- A client that asks anything for a request is ready. -/
theorem ready_of_exchanges {c : Catalog} {r : Request} {w : World σ}
    (h : (send c r).exchanges w ≠ []) : w.Ready := by
  by_contra hw
  obtain ⟨e, he⟩ := execute_of_not_ready r.statement r.parameters hw
  have stopped : (send c r).perform w = (.error e, w) := perform_bind_error he
  exact h (exchanges_of_trace (by rw [stopped]))

/-- **Values stay out of texts.** Two operations that differ in nothing but values, of any two
clients, at any two times and with any two identifiers, send the same texts in the same order:
provided that both ask the driver for anything, and that what the driver replies is the same as
far as both go. -/
theorem texts_eq_of_alike (c : Catalog) {operation operation' : Operation}
    (alike : operation.Alike operation') {w : World σ} {w' : World σ'}
    (asks : (perform c operation).exchanges w ≠ [])
    (asks' : (perform c operation').exchanges w' ≠ [])
    (same : Comparable ((perform c operation).replies w) ((perform c operation').replies w')) :
    (perform c operation).texts w = (perform c operation').texts w' := by
  -- Each has made a request, and sends what sending that request sends.
  obtain ⟨r, v, hr, hv, hx⟩ := exists_request_of_exchanges asks
  obtain ⟨r', v', hr', hv', hx'⟩ := exists_request_of_exchanges asks'
  have ready : v.Ready := ready_of_exchanges (c := c) (r := r) (hx ▸ asks)
  have ready' : v'.Ready := ready_of_exchanges (c := c) (r := r') (hx' ▸ asks')
  rw [replies, replies, hx, hx'] at same
  rw [texts, texts, statements, statements, hx, hx']
  exact texts_send_eq (alike.request hr hr') ready ready' same

/-- Whether all that is said is that one statement has an empty result. -/
def saysNothing : List Reply → Bool
  | [.answered (.ok result)] => result.records.isEmpty && result.counters = {}
  | _ => false

theorem eq_of_saysNothing {said : List Reply} (h : saysNothing said = true) :
    said = [.answered (.ok {})] := by
  unfold saysNothing at h
  split at h
  · next result =>
    obtain ⟨records, counters⟩ := result
    obtain ⟨hr, hc⟩ := (Bool.and_eq_true _ _).mp h
    obtain rfl : records = [] := List.isEmpty_iff.mp hr
    obtain rfl : counters = {} := of_decide_eq_true hc
    rfl
  · cases h

theorem comparable_of_saysNothing {said said' : List Reply} (h : saysNothing said = true)
    (h' : saysNothing said' = true) : Comparable said said' := by
  rw [eq_of_saysNothing h, eq_of_saysNothing h']
  exact .inl List.prefix_rfl

omit [Database σ] in
theorem exchanges_ne_nil_of_saysNothing {α : Type} {a : Action σ α} {w : World σ}
    (h : saysNothing (a.replies w) = true) : a.exchanges w ≠ [] := by
  intro nothing
  rw [replies, nothing] at h
  cases h

/-- Looking for two addresses, at two times, sends the same texts. -/
theorem texts_eq_of_alike_users :
    (perform Example.users (Example.lookFor "a@x")).texts (Example.connected []) =
      (perform Example.users (Example.lookFor "b@x")).texts Example.later := by
  have first : saysNothing ((perform Example.users (Example.lookFor "a@x")).replies
      (Example.connected [])) = true := by
    decide +kernel
  have second : saysNothing ((perform Example.users (Example.lookFor "b@x")).replies
      Example.later) = true := by
    decide +kernel
  have asks := exchanges_ne_nil_of_saysNothing first
  have asks' := exchanges_ne_nil_of_saysNothing second
  have same := comparable_of_saysNothing first second
  have alike : (Example.lookFor "a@x").Alike (Example.lookFor "b@x") := .getByProperties _ rfl
  exact texts_eq_of_alike Example.users alike asks asks' same

end Client

end GraphMapper
