import GraphMapper.Proofs.Closed
import GraphMapper.Proofs.Selection

/-!
# Whether a created node is live

Whatever reads, updates or deletes nodes asks for live ones, and says so in the same words for
all types: the condition `IsDeleted:false` is part of the wording. A node that is created, on the
other hand, gets its properties from the fields of its type, each under the key of the field –
and a type is free to declare the field `is_deleted` again under another key, to keep it from
being stored, or to store another field under the key `IsDeleted`.

This file says when the two agree.

* `GraphMapper.Client.asksForLive_of_mem_statements`: an operation on live nodes, lookups included,
  asks for nodes with `IsDeleted:false`.
* `GraphMapper.Client.gives_live_iff`: a created node has this property exactly if the last
  stored field with the key `IsDeleted` holds false – which is `is_deleted`, as long as no field
  that is declared later changes this.
-/

namespace GraphMapper

open GraphMapper.Action Outcome Statement

/-! ### What an entity stores under a key -/

namespace Descriptor

/-- The field whose value is stored under a key: the last one, if there are several. -/
def holder? (d : Descriptor) (key : String) : Option FieldDescriptor :=
  d.persistableFields.reverse.find? (·.key = key)

/-- What an entity stores under a key. -/
def stored? (d : Descriptor) (entity : Value) (key : String) : Option Value :=
  (d.holder? key).map (entity.attr ·.name)

end Descriptor

/-- **The last field with a key counts.** -/
theorem Value.lookup_storedValues (entity : Value) (fields : List FieldDescriptor) (key : String) :
    (entity.storedValues fields).lookup key =
      ((fields.filter (·.isPersistable)).reverse.find? (·.key = key)).map (entity.attr ·.name) := by
  rw [storedValues, Assoc.lookup_ofEntries, ← List.map_reverse]
  generalize (fields.filter (·.isPersistable)).reverse = later
  induction later with
  | nil => rfl
  | cons f rest ih =>
    rw [List.map_cons, List.lookup_cons, List.find?_cons]
    by_cases same : f.key = key
    · simp [same]
    · have other : (key == f.key) = false := beq_eq_false_iff_ne.mpr (Ne.symm same)
      simp only [other, same, decide_false]
      exact ih

/-- All fields but the identifier are stored as a caller gives them. -/
theorem Descriptor.lookup_settable (d : Descriptor) (entity : Value) {key : String}
    (hk : key ≠ identifierKey) :
    (entity.storedValues d.settableFields).lookup key = d.stored? entity key := by
  have kept : d.settableFields.filter (·.isPersistable) = d.settableFields := by
    refine List.filter_eq_self.mpr fun f hf => ?_
    exact (mem_settableFields.mp hf).2.1
  rw [Value.lookup_storedValues, kept, stored?, holder?, settableFields, ← List.filter_reverse,
    List.find?_filter]
  congr 2
  funext f
  by_cases same : f.key = key
  · simp [same, FieldDescriptor.isIdentifier, hk]
  · simp [same]

/-! ### What a statement gives a node -/

namespace Statement

/-- The pattern of a statement binds a property to a value. -/
def PatternGives (statement : String) (parameters : Value) (key : String) (v : Value) : Prop :=
  ∃ values name, parameters = .ofParameters values ∧
    key ++ ":$" ++ name ∈ conjuncts statement ∧ values.lookup name = some v

/-- A branch of a statement assigns a value to a property. -/
def BranchGives (branch statement : String) (parameters : Value) (key : String) (v : Value) :
    Prop :=
  ∃ values name, parameters = .ofParameters values ∧
    nodeVariable ++ "." ++ key ++ "=$" ++ name ∈ assignments branch statement ∧
    values.lookup name = some v

end Statement

theorem Value.ofParameters_injective : Function.Injective ofParameters := by
  intro values values' h
  exact ofNames_injective (Value.map.inj h)

/-- What is said of a property is one value, if what is said is bound to what a map holds. -/
theorem gives_iff_of_bound {Says : String → String → Prop} {values : Parameters}
    {held : String → Option Value}
    (bound : ∀ key name, Says key name → ∃ v, held key = some v ∧ values.lookup name = some v)
    (whole : ∀ key v, held key = some v → ∃ name, Says key name) (key : String) (v : Value) :
    (∃ values' name, Value.ofParameters values = .ofParameters values' ∧ Says key name ∧
      values'.lookup name = some v) ↔ held key = some v := by
  constructor
  · rintro ⟨values', name, hp, hs, hl⟩
    obtain rfl := Value.ofParameters_injective hp
    obtain ⟨v', hv, hl'⟩ := bound key name hs
    rw [hv, ← hl, hl']
  · intro hv
    obtain ⟨name, hs⟩ := whole key v hv
    obtain ⟨v', hv', hl⟩ := bound key name hs
    exact ⟨values, name, rfl, hs, hl.trans (hv'.symm.trans hv)⟩

theorem ConditionsBound.patternGives_iff {statement : String} {values : Parameters}
    {held : String → Option Value} (h : ConditionsBound statement values held) (key : String)
    (v : Value) : PatternGives statement (.ofParameters values) key v ↔ held key = some v :=
  gives_iff_of_bound h.bound h.whole key v

theorem AssignmentsBound.branchGives_iff {branch statement : String} {values : Parameters}
    {held : String → Option Value} (h : AssignmentsBound branch statement values held)
    (key : String) (v : Value) :
    BranchGives branch statement (.ofParameters values) key v ↔ held key = some v :=
  gives_iff_of_bound h.bound h.whole key v

/-! ### Conditions in front of everything else -/

namespace Wording

/-- The conditions of a statement are what stands between its first braces. -/
theorem conjuncts_eq (label : Identifier) (before inside : String) (rest : List Char) {s : String}
    (hs : s.toList = (before.toList ++ label.text.toList) ++
      '\x7b' :: (inside.toList ++ '\x7d' :: rest))
    (hb : '\x7b' ∉ before.toList) (hi : '\x7d' ∉ inside.toList) :
    conjuncts s = pieces ',' inside := by
  rw [conjuncts, between_eq hs (brace_notMem_label label before hb) hi]

theorem conjuncts_create (label : Identifier) {conditions : String}
    (h : '\x7d' ∉ conditions.toList) :
    conjuncts (create label.text conditions) = pieces ',' conditions :=
  conjuncts_eq label "CREATE (n:" conditions ") RETURN n".toList (by simp [create]) (by decide) h

theorem conjuncts_getAll (label : Identifier) :
    conjuncts (getAll label.text) = ["IsDeleted:false"] :=
  (conjuncts_eq label "MATCH (n:" "IsDeleted:false" ") RETURN n".toList (by simp [getAll])
    (by decide) (by decide)).trans (by decide)

theorem conjuncts_getByProperty (label : Identifier) {property : String}
    (h : '\x7d' ∉ property.toList) :
    conjuncts (getByProperty label.text property) =
      pieces ',' (property ++ ":$value") ++ ["IsDeleted:false"] := by
  have live : pieces ',' "IsDeleted:false" = ["IsDeleted:false"] := by decide
  rw [← live, ← pieces_append]
  exact conjuncts_eq label "MATCH (n:" _ ") RETURN n".toList (by simp [getByProperty]) (by decide)
    (by simp [h])

theorem conjuncts_update (label : Identifier) (clause ending : String) :
    conjuncts (update label.text clause ending) = ["Uuid:$Uuid", "IsDeleted:false"] :=
  (conjuncts_eq label "MATCH (n:" "Uuid:$Uuid,IsDeleted:false"
    (") SET ".toList ++ (clause.toList ++ ' ' :: ending.toList)) (by simp [update])
    (by decide) (by decide)).trans (by decide)

theorem conjuncts_delete (label : Identifier) :
    conjuncts (delete label.text) = ["Uuid:$Uuid", "IsDeleted:false"] :=
  (conjuncts_eq label "MATCH (n:" "Uuid:$Uuid,IsDeleted:false"
    ") SET n.UpdatedAt=$UpdatedAt,n.IsDeleted=true RETURN n".toList (by simp [delete])
    (by decide) (by decide)).trans (by decide)

end Wording

/-! ### Operations on live nodes -/

/-- Whether an operation is on live nodes. -/
def Operation.isOnLive : Operation → Bool
  | update _ _ _ | partialUpdate _ _ _ | delete _ _ | getByProperty _ _ _ | getByProperties _ _
  | getAll _ | getByUuid _ _ => true
  | _ => false

/-- A statement asks for live nodes. -/
def AsksForLive (statement : String) : Prop := deletedKey ++ ":false" ∈ conjuncts statement

theorem asksForLive_iff {statement : String} :
    AsksForLive statement ↔ "IsDeleted:false" ∈ conjuncts statement := by
  have marked : deletedKey ++ ":false" = "IsDeleted:false" := by decide
  rw [AsksForLive, marked]

/-- The request of an operation on live nodes asks for them. -/
theorem Operation.live_request {c : Catalog} {now : Float} {identifier : String}
    {operation : Operation} (ho : operation.isOnLive = true) {r : Request}
    (h : operation.request c now identifier = .ok r) : AsksForLive r.statement := by
  rw [asksForLive_iff]
  cases operation with
  | update entity uuid fetch =>
    obtain ⟨type, id, d, -, -, -, rfl⟩ := Request.update_eq_ok h
    simp [Wording.conjuncts_update]
  | partialUpdate entity uuid fetch =>
    obtain ⟨type, id, d, -, -, -, rfl⟩ := Request.update_eq_ok h
    simp [Wording.conjuncts_update]
  | delete type uuid =>
    obtain ⟨id, t, d, -, -, -, rfl⟩ := Request.delete_eq_ok h
    simp [Wording.conjuncts_delete]
  | getByProperty type name value =>
    obtain ⟨property, t, d, key, -, -, -, -, hk, rfl⟩ := Request.getByProperty_eq_ok h
    -- A key that was accepted holds no brace, so it does not end the conditions.
    rw [Wording.conjuncts_getByProperty _ (notMem_of_isIdentifier hk (by decide) (by decide))]
    simp
  | getByProperties type properties =>
    obtain ⟨entries, t, d, values, -, -, -, -, -, hk, rfl⟩ := Request.getByProperties_eq_ok h
    rw [Wording.conjuncts_getByProperties _ (Clause.brace_notMem_condition hk)]
    simp
  | getAll type =>
    obtain ⟨t, d, -, -, rfl⟩ := Request.getAll_eq_ok h
    simp [Wording.conjuncts_getAll]
  | getByUuid type uuid =>
    obtain ⟨id, t, d, -, -, -, rfl⟩ := Request.getByUuid_eq_ok h
    rw [Wording.conjuncts_getByProperty _ (by decide)]
    simp
  | _ => cases ho

theorem Operation.not_isCustom_of_isOnLive {operation : Operation}
    (h : operation.isOnLive = true) : operation.isCustom = false := by
  cases operation <;> first | rfl | cases h

theorem IsLookup.asksForLive {statement : String} {parameters : Value}
    (h : IsLookup statement parameters) : AsksForLive statement := by
  obtain ⟨label, edge, related, uuid, rfl, -⟩ := h
  rw [asksForLive_iff, Wording.lookup, Wording.conjuncts_getByProperties _ (by decide)]
  simp

/-! ### Creating -/

namespace Request

variable {c : Catalog} {type : EntityRef} {d : Descriptor} {entity : Value}

/-- Creating an entity of a described type comes about. -/
theorem exists_add (ht : entity.entityType? = some type) (hd : c.describeRef type = .ok d)
    (identifier : String) : ∃ r, add c identifier entity = .ok r := by
  have checked : Argument.entity "entity" entity = .ok type := by rw [Argument.entity, ht]
  have condition : Clause.condition "" (Value.ofNames (entity.storedValues d.settableFields)) =
      .ok (.ofValues .condition "" (entity.storedValues d.settableFields)) :=
    Clause.condition_eq_ok_iff.mpr
      ⟨_, rfl, fun _ => isIdentifier_of_mem_settable hd, rfl⟩
  exact ⟨_, bind_eq_ok.mpr ⟨type, checked, bind_eq_ok.mpr ⟨d, hd, bind_eq_ok.mpr
    ⟨_, condition, bind_eq_ok.mpr ⟨_, Wording.render_create .., rfl⟩⟩⟩⟩⟩

/-- **What a created node gets**: the values of an entity, and its identifier. -/
theorem add_bound (hd : c.describeRef type = .ok d) (identifier : String) :
    ConditionsBound
      (Wording.create d.label.text
        (Clause.ofValues .condition "" (createdValues d entity identifier)).text)
      (Clause.ofValues .condition "" (createdValues d entity identifier)).parameters
      ((createdValues d entity identifier).lookup ·) := by
  have plain (key : String) (hk : key ∈ Assoc.keys (createdValues d entity identifier)) :
      isIdentifier key.toList = true :=
    isIdentifier_of_mem_createdValues identifier entity hd hk
  have read (key name : String) :
      key ++ ":$" ++ name ∈ conjuncts (Wording.create d.label.text
          (Clause.ofValues .condition "" (createdValues d entity identifier)).text) ↔
        key ∈ Assoc.keys (createdValues d entity identifier) ∧ key = name := by
    rw [Wording.conjuncts_create _ (Clause.brace_notMem_condition plain)]
    exact Clause.condition_mem_pieces_iff plain key name
  rw [Clause.parameters_ofValues_plain,
    Assoc.ofEntries_of_nodup (nodup_keys_createdValues d entity identifier)]
  constructor
  · intro key name hm
    obtain ⟨hk, rfl⟩ := (read key name).mp hm
    obtain ⟨v, hl⟩ := Assoc.exists_lookup_of_mem_keys hk
    exact ⟨v, hl, hl⟩
  · intro key v held
    exact ⟨key, (read key key).mpr ⟨Assoc.mem_keys_of_lookup held, rfl⟩⟩

end Request

namespace Client

variable {σ : Type} [Database σ] {c : Catalog}

/-- **An operation on live nodes asks for them**, in every statement that it sends. -/
theorem asksForLive_of_mem_statements {operation : Operation} (ho : operation.isOnLive = true)
    {w : World σ} {sent : String × Value} (h : sent ∈ (perform c operation).statements w) :
    AsksForLive sent.1 := by
  obtain ⟨r, v, hr, -, hv⟩ := exists_request (List.ne_nil_of_mem h)
  obtain ⟨parameters, hp⟩ := operation.exists_parameters (Operation.not_isCustom_of_isOnLive ho) hr
  have root := operation.live_request ho hr
  have asks : Asks (Sends fun s _ => AsksForLive s) (send c r : Action σ Value) :=
    within_send (fun _ _ lookup => sends_execute lookup.asksForLive) hp (sends_execute root)
  rw [hv] at h
  exact asks.holds v sent h

/-- Adding looks nothing up: all it sends is the statement of its request. -/
theorem mem_statements_add {entity : Value} {w : World σ} {sent : String × Value}
    (h : sent ∈ (perform c (.add entity)).statements w) :
    ∃ r, Request.add c w.nextIdentifier entity = .ok r ∧ sent = (r.statement, r.parameters) := by
  refine mem_statements_of_not_looksUp (.add entity) ?_ h
  intro r hr
  obtain ⟨type, d, -, -, rfl⟩ := Request.add_eq_ok hr
  exact ⟨rfl, _, rfl⟩

section Creating

variable {type : EntityRef} {d : Descriptor} {entity : Value}
  (ht : entity.entityType? = some type) (hd : c.describeRef type = .ok d) {w : World σ}
  {key : String} (hk : key ≠ identifierKey) {sent : String × Value}

include ht hd hk

/-- What adding an entity gives a node. -/
theorem patternGives_iff_of_add (h : sent ∈ (perform c (.add entity)).statements w) (v : Value) :
    PatternGives sent.1 sent.2 key v ↔ d.stored? entity key = some v := by
  obtain ⟨r, hr, rfl⟩ := mem_statements_add h
  obtain ⟨type', d', ht', hd', rfl⟩ := Request.add_eq_ok hr
  obtain rfl : type = type' := Option.some.inj (ht.symm.trans ht')
  obtain rfl : d = d' := Except.ok.inj (hd.symm.trans hd')
  refine ((Request.add_bound hd w.nextIdentifier).patternGives_iff key v).trans ?_
  rw [Request.lookup_createdValues, if_neg hk, d.lookup_settable entity hk]

/-- What merging assigns to a new node. -/
theorem branchGives_iff_of_merge {onUpdate properties : Value}
    (h : sent ∈ (perform c (.merge entity onUpdate properties)).statements w) (v : Value) :
    BranchGives "CREATE" sent.1 sent.2 key v ↔ d.stored? entity key = some v := by
  obtain ⟨r, hr, rfl⟩ := mem_statements_merge h
  obtain ⟨type', _, entries, d', u, values, ht', -, -, -, hd', hu, hv, plain, rfl⟩ :=
    Request.merge_eq_ok hr
  obtain rfl : type = type' := Option.some.inj (ht.symm.trans ht')
  obtain rfl : d = d' := Except.ok.inj (hd.symm.trans hd')
  obtain ⟨given, -, rfl⟩ := Descriptor.translate_eq_ofNames hv
  have bound := Request.created_bound w.now w.nextIdentifier entity onUpdate hd hu plain
    (Assoc.nodup_keys_ofEntries given)
  rw [← d.lookup_settable entity hk]
  refine (bound.branchGives_iff key v).trans ?_
  rw [if_neg hk]

end Creating

/-- **When created nodes are live.** Of an entity of a described type, the request to add it comes
about, and what adding it gives the node, and what merging with it assigns to a new one, marks the
node as not deleted exactly if the last stored field with the key of the mark holds false. This
mark is what every operation on live nodes asks for, whatever the type. -/
theorem gives_live_iff {type : EntityRef} {d : Descriptor} {entity : Value}
    (ht : entity.entityType? = some type) (hd : c.describeRef type = .ok d) (w : World σ) :
    (∃ r, (Operation.add entity).request c w.now w.nextIdentifier = .ok r) ∧
    (∀ sent ∈ (perform c (.add entity)).statements w,
      PatternGives sent.1 sent.2 deletedKey (.bool false) ↔
        d.stored? entity deletedKey = some (.bool false)) ∧
    (∀ onUpdate properties, ∀ sent ∈ (perform c (.merge entity onUpdate properties)).statements w,
      BranchGives "CREATE" sent.1 sent.2 deletedKey (.bool false) ↔
        d.stored? entity deletedKey = some (.bool false)) ∧
    ∀ operation : Operation, operation.isOnLive = true →
      ∀ sent ∈ (perform c operation).statements w, AsksForLive sent.1 := by
  have apart : deletedKey ≠ identifierKey := by decide
  refine ⟨Request.exists_add ht hd w.nextIdentifier, ?_, ?_, ?_⟩
  · intro sent h
    exact patternGives_iff_of_add ht hd apart h (.bool false)
  · intro onUpdate properties sent h
    exact branchGives_iff_of_merge ht hd apart h (.bool false)
  · intro operation ho sent h
    exact asksForLive_of_mem_statements ho h

end Client

/-! ### A type that marks deletion elsewhere -/

namespace Example

/-- Pages are marked as deleted by a property of their own. -/
def page : EntityType :=
  { number := 0
    name := "Page"
    label := .text "Page"
    fields := EntityType.extend baseFields
      [{ name := "is_deleted", type := .plain .truth, alias? := some "Deleted",
         default := .value (.bool false) }] }

/-- The catalog of pages. -/
def pages : Catalog := ⟨[page]⟩

/-- A page that is not deleted. -/
def keptPage : Value :=
  .entity page.ref
    [("uuid", .null), ("created_at", .float 0), ("updated_at", .null),
      ("is_deleted", .bool false)]

end Example

namespace Client

/-- A user that is added is live. -/
theorem gives_live_iff_users :
    ∃ sent ∈ (perform Example.users (.add (Example.userWith "a@x"))).statements
        (Example.connected []), PatternGives sent.1 sent.2 deletedKey (.bool false) := by
  have sends : ((perform Example.users (.add (Example.userWith "a@x"))).statements
      (Example.connected [])).isEmpty = false := by
    decide +kernel
  obtain ⟨sent, hs⟩ := List.exists_mem_of_ne_nil _ (List.isEmpty_eq_false_iff.mp sends)
  obtain ⟨d, described, stored⟩ : ∃ d, Example.users.describeRef Example.user.ref = .ok d ∧
      d.stored? (Example.userWith "a@x") deletedKey = some (.bool false) := ⟨_, rfl, rfl⟩
  have user : (Example.userWith "a@x").entityType? = some Example.user.ref := rfl
  obtain ⟨-, added, -, -⟩ := gives_live_iff user described (Example.connected [])
  exact ⟨sent, hs, (added sent hs).mpr stored⟩

/-- A page that is added is not, although it is not deleted: the mark is not given at all. -/
theorem not_live_of_add_page :
    ¬ ∀ (type : EntityRef) (d : Descriptor) (entity : Value) (w : World Scripted)
        (sent : String × Value), entity.entityType? = some type →
      Example.pages.describeRef type = .ok d → entity.attr "is_deleted" = .bool false →
      sent ∈ (perform Example.pages (.add entity)).statements w →
      PatternGives sent.1 sent.2 deletedKey (.bool false) := by
  intro claim
  have sends : ((perform Example.pages (.add Example.keptPage)).statements
      (Example.connected [])).isEmpty = false := by
    decide +kernel
  obtain ⟨sent, hs⟩ := List.exists_mem_of_ne_nil _ (List.isEmpty_eq_false_iff.mp sends)
  obtain ⟨d, described, unmarked⟩ : ∃ d, Example.pages.describeRef Example.page.ref = .ok d ∧
      d.stored? Example.keptPage deletedKey = none := ⟨_, rfl, rfl⟩
  have gives := claim Example.page.ref d Example.keptPage (Example.connected []) sent rfl described
    rfl hs
  have stored := (patternGives_iff_of_add rfl described (by decide) hs (.bool false)).mp gives
  rw [unmarked] at stored
  cases stored

end Client

end GraphMapper
