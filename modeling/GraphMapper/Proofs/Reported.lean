import GraphMapper.Proofs.RoundTrip
import GraphMapper.Proofs.Related.Strays
import GraphMapper.Proofs.Settable

/-!
# Reporting a new node

When a node has been created, an entity is made of what the database answers, and returned. The node
is there by then, so a failure to make the entity comes too late.

Whether there is an entity is decided field by field (`GraphMapper.Field.IsServed`): a field has to
take what the node holds for it, or to have a default if the node holds nothing. Say the database
answers with exactly what it was given. Where the properties are different, each stored field finds
its own value, or the new identifier (`GraphMapper.Catalog.exists_input?_created`). So there is an
entity exactly if three kinds of fields are served (`GraphMapper.Catalog.ReadsBack`): the
identifier's, the other stored ones, which have to take again what they made, and those that are not
stored.

The second kind is no obstacle where types are stable. The third is, as nothing is stored for these
fields: one without a default cannot be made, whatever the entity held
(`GraphMapper.Client.not_add_returns_visitors`).
-/

namespace GraphMapper

open GraphMapper.Action Checked

/-! ### Making an instance field by field -/

namespace Field

variable {f : Field} {asEntity : EntityRef → Value → Checked Accepted} {entries : Entries}
  {now : Float}

/-- A field **takes** a value if its type accepts it within the bounds. -/
def Takes (f : Field) (asEntity : EntityRef → Value → Checked Accepted) (v : Value) : Prop :=
  ∃ a, f.accept asEntity v = .ok a

/-- A field is **served** by a map if it takes what the map gives for it, or has a default and the
map gives nothing. -/
def IsServed (f : Field) (asEntity : EntityRef → Value → Checked Accepted) (entries : Entries) :
    Prop :=
  match f.input? entries with
  | some (_, v) => f.Takes asEntity v
  | none => f.default ≠ .required

theorem isServed_of_input?_eq_some {name : String} {v : Value}
    (given : f.input? entries = some (name, v)) :
    f.IsServed asEntity entries ↔ f.Takes asEntity v := by
  rw [IsServed, given]

theorem isServed_of_input?_eq_none (given : f.input? entries = none) :
    f.IsServed asEntity entries ↔ f.default ≠ .required := by
  rw [IsServed, given]

/-- A field can be filled exactly if it has a default. -/
theorem exists_filled_iff (now : Float) : (∃ v, f.filled now = .ok v) ↔ f.default ≠ .required := by
  refine ⟨?_, fun filled => Catalog.exists_filled filled now⟩
  rintro ⟨v, filled⟩ required
  rw [Field.filled, required] at filled
  cases filled

/-- A field can be made exactly if it is served. -/
theorem exists_made_iff :
    (∃ a, f.made asEntity now entries = .ok a) ↔ f.IsServed asEntity entries := by
  cases given : f.input? entries with
  | none =>
    rw [isServed_of_input?_eq_none given, ← exists_filled_iff now, Field.made, given]
    constructor
    · rintro ⟨a, made⟩
      obtain ⟨v, filled, -⟩ := Outcome.map_eq_ok.mp made
      exact ⟨v, filled⟩
    · rintro ⟨v, filled⟩
      exact ⟨.exactly v, Outcome.map_eq_ok.mpr ⟨v, filled, rfl⟩⟩
  | some found =>
    rw [isServed_of_input?_eq_some given, Field.made, given]
    exact exists_congr fun a => under_eq_ok_iff

end Field

namespace Catalog

variable {c : Catalog} {t : EntityRef} {d : Descriptor} {now : Float}

/-- What entity types make of values inside a map that an instance of a type is made of. -/
def readingIn (c : Catalog) (now : Float) (t : EntityRef) (entries : Entries) :
    EntityRef → Value → Checked Accepted :=
  c.readingAt now (fun _ => Value.entriesDepth entries)
    ((c.innerNesting? t).getD (c.nesting (c.resolve t)))

/-- There is room inside an instance that is not inside another. -/
theorem exists_innerNesting? (c : Catalog) (t : EntityRef) : ∃ n, c.innerNesting? t = some n := by
  rw [innerNesting?, Nesting.inside?]
  split
  · exact ⟨_, rfl⟩
  · exact ⟨_, rfl⟩

/-- Where a type is fit for use, only a map that is refused makes no instance. -/
theorem exists_refusal_of_construct (resolved : c.unresolved? t = none)
    (suited : c.isSuited t = true) {entries : Entries} {e : Failure}
    (failed : c.construct now t entries = .error e) :
    ∃ refusal : Refusal, e = refusal.toFailure := by
  unfold construct at failed
  rw [resolved] at failed
  dsimp only at failed
  rw [if_pos suited] at failed
  rcases outcome : c.acceptAt now (c.nesting (c.resolve t)) t (.map entries) with refusal | a
  · rw [outcome] at failed
    exact ⟨refusal, (Except.error.inj failed).symm⟩
  · rw [outcome] at failed
    cases failed

/-- **An instance can be made of a map** exactly if the map serves all fields. If not, the map is
refused. -/
theorem construct_cases (declared : c.Declared) (described : c.describeRef t = .ok d)
    (now : Float) (entries : Entries) :
    ((∃ e, c.construct now t entries = .ok e ∧ e.entityType? = some (c.resolve t)) ∧
        ∀ f ∈ c.fieldsOf t, f.IsServed (c.readingIn now t entries) entries) ∨
      (∃ refusal : Refusal, c.construct now t entries = .error refusal.toFailure) ∧
        ¬ ∀ f ∈ c.fieldsOf t, f.IsServed (c.readingIn now t entries) entries := by
  obtain ⟨n, inner⟩ := c.exists_innerNesting? t
  obtain ⟨-, -, resolved, suited, -⟩ := describeRef_eq_ok.mp described
  have reading : c.readingIn now t entries =
      c.readingAt now (fun _ => Value.entriesDepth entries) n := by
    rw [readingIn, inner, Option.getD_some]
  rw [reading]
  by_cases served : ∀ f ∈ c.fieldsOf t,
      f.IsServed (c.readingAt now (fun _ => Value.entriesDepth entries) n) entries
  · have made (f : Field) (hf : f ∈ c.fieldsOf t) : ∃ a, f.made
        (c.readingAt now (fun _ => Value.entriesDepth entries) n) now entries = .ok a :=
      Field.exists_made_iff.mpr (served f hf)
    obtain ⟨attributes, made⟩ := exists_attributesOf made
    exact .inl ⟨⟨_, construct_eq_ok_iff.mpr ⟨resolved, suited, n, inner, attributes, made, rfl⟩,
      rfl⟩, served⟩
  · refine .inr ⟨?_, served⟩
    rcases outcome : c.construct now t entries with e | e
    · obtain ⟨refusal, rfl⟩ := exists_refusal_of_construct resolved suited outcome
      exact ⟨refusal, rfl⟩
    · refine absurd (fun f hf => ?_) served
      -- An instance was made after all, so each of its attributes was.
      obtain ⟨-, -, n', inner', attributes, made, -⟩ := construct_eq_ok_iff.mp outcome
      obtain rfl := Option.some.inj (inner.symm.trans inner')
      obtain ⟨a, made, -⟩ := exists_made_of_mem (declared.nodup_names_fieldsOf t) made hf
      exact Field.exists_made_iff.mp ⟨a, made⟩

end Catalog

/-! ### What a new node holds -/

/-- The properties of a node that was created from an entity, with an identifier. -/
def Request.createdProperties (d : Descriptor) (entity : Value) (identifier : String) : Entries :=
  Value.ofNames (createdValues d entity identifier)

namespace Catalog

variable {c : Catalog} {t : EntityRef} {d : Descriptor} {entity : Value} {identifier : String}
  {f : Field}

/-- Where the properties are different, what a stored field holds is stored under its property. -/
theorem stored?_key (described : c.describeRef t = .ok d)
    (distinct : ((c.storedFields t).map Field.key).Nodup) (entity : Value)
    (hf : f ∈ c.storedFields t) : d.stored? entity f.key = some (entity.attr f.name) := by
  -- The descriptor lists the stored fields as the type does, so its properties are different, too.
  have pairs := persistableFields_eq described
  have keys : (d.persistableFields.map FieldDescriptor.key).Nodup := by
    have same := congrArg (List.map Prod.fst) pairs
    rw [List.map_map, List.map_map] at same
    exact same ▸ distinct
  obtain ⟨g, hg, same⟩ : ∃ g ∈ d.persistableFields, (g.key, g.name) = (f.key, f.name) :=
    List.mem_map.mp (pairs ▸ List.mem_map_of_mem hf)
  obtain ⟨keyed, named⟩ := Prod.mk.inj same
  rw [Descriptor.stored?, ← keyed, Descriptor.holder?_eq_some keys hg, Option.map_some, named]

/-- Under the empty name stands nothing. -/
theorem lookup_empty_created (described : c.describeRef t = .ok d) (entity : Value)
    (identifier : String) :
    (Request.createdProperties d entity identifier).lookup (.text "") = none := by
  have other : "" ≠ identifierKey := by decide
  have none : d.holder? "" = none := by
    refine List.find?_eq_none.mpr fun g hg => ?_
    obtain ⟨hg, stored⟩ := List.mem_filter.mp (List.mem_reverse.mp hg)
    -- Properties are identifiers, and the empty text is none.
    have identifier := isIdentifier_key described hg stored
    simp only [decide_eq_true_eq]
    intro empty
    rw [empty] at identifier
    exact absurd identifier (by decide)
  rw [Request.createdProperties, Value.lookup_ofNames, Request.lookup_createdValues, if_neg other,
    d.lookup_settable entity other, Descriptor.stored?, none, Option.map_none]

/-- **What a new node holds for a stored field**: the identifier, or what the entity holds in it. -/
theorem exists_input?_created (described : c.describeRef t = .ok d)
    (distinct : ((c.storedFields t).map Field.key).Nodup) (entity : Value) (identifier : String)
    (hf : f ∈ c.storedFields t) :
    ∃ name, f.input? (Request.createdProperties d entity identifier) =
      some (name, if f.key = identifierKey then .text identifier else entity.attr f.name) := by
  refine Field.exists_input? (lookup_empty_created described entity identifier) ?_
  rw [Request.createdProperties, Value.lookup_ofNames, Request.lookup_createdValues]
  split
  · rfl
  · next other => rw [d.lookup_settable entity other, stored?_key described distinct entity hf]

/-- **A new node reads back** as an instance of its type, at some time. -/
structure ReadsBack (c : Catalog) (now : Float) (t : EntityRef) (entity : Value)
    (identifier : String) (properties : Entries) : Prop where
  /-- The field that is stored under the property of the identifier takes the new one. -/
  identified : ∀ f ∈ c.storedFields t, f.key = identifierKey →
    f.Takes (c.readingIn now t properties) (.text identifier)
  /-- Every other stored field takes again what the entity holds in it. -/
  again : ∀ f ∈ c.storedFields t, f.key ≠ identifierKey →
    f.Takes (c.readingIn now t properties) (entity.attr f.name)
  /-- A field that is not stored takes a property that goes by one of its names, and has a default
  if there is none. -/
  others : ∀ f ∈ c.fieldsOf t, c.isStored f = false →
    f.IsServed (c.readingIn now t properties) properties

/-- It does so exactly if its properties serve all fields. -/
theorem readsBack_iff (described : c.describeRef t = .ok d)
    (distinct : ((c.storedFields t).map Field.key).Nodup) (now : Float) (entity : Value)
    (identifier : String) {properties : Entries}
    (created : properties = Request.createdProperties d entity identifier) :
    c.ReadsBack now t entity identifier properties ↔
      ∀ f ∈ c.fieldsOf t, f.IsServed (c.readingIn now t properties) properties := by
  have stored (f : Field) (hf : f ∈ c.storedFields t) :
      f.IsServed (c.readingIn now t properties) properties ↔
        f.Takes (c.readingIn now t properties)
          (if f.key = identifierKey then .text identifier else entity.attr f.name) := by
    obtain ⟨name, given⟩ := exists_input?_created described distinct entity identifier hf
    exact Field.isServed_of_input?_eq_some (created ▸ given)
  constructor
  · intro h f hf
    cases isStored : c.isStored f with
    | false => exact h.others f hf isStored
    | true =>
      have hf := mem_storedFields.mpr ⟨hf, isStored⟩
      rw [stored f hf]
      split
      · next keyed => exact h.identified f hf keyed
      · next other => exact h.again f hf other
  · intro served
    have each (f : Field) (hf : f ∈ c.storedFields t) :=
      (stored f hf).mp (served f (mem_storedFields.mp hf).1)
    refine ⟨fun f hf keyed => ?_, fun f hf other => ?_, fun f hf _ => served f hf⟩
    · simpa only [if_pos keyed] using each f hf
    · simpa only [if_neg other] using each f hf

/-- **An instance is made of a new node** exactly if the node reads back. If it does not, it is
refused. -/
theorem construct_created (declared : c.Declared) (described : c.describeRef t = .ok d)
    (distinct : ((c.storedFields t).map Field.key).Nodup) (now : Float) (entity : Value)
    (identifier : String) {properties : Entries}
    (created : properties = Request.createdProperties d entity identifier) :
    ((∃ e, c.construct now t properties = .ok e ∧ e.entityType? = some (c.resolve t)) ↔
        c.ReadsBack now t entity identifier properties) ∧
      (¬ c.ReadsBack now t entity identifier properties →
        ∃ refusal : Refusal, c.construct now t properties = .error refusal.toFailure) := by
  rw [readsBack_iff described distinct now entity identifier created]
  rcases construct_cases declared described now properties with
    ⟨made, served⟩ | ⟨⟨refusal, refused⟩, unserved⟩
  · exact ⟨iff_of_true made served, fun unserved => absurd served unserved⟩
  · refine ⟨iff_of_false ?_ unserved, fun _ => ⟨refusal, refused⟩⟩
    rintro ⟨e, made, -⟩
    cases refused.symm.trans made

/-- A field takes again what it made, if its type is stable. -/
theorem takes_again (stable : f.type.Stable) {made : Float} {entries : Entries}
    (constructed : c.construct made t entries = .ok entity) (declared : c.Declared)
    (given : ∀ f ∈ c.storedFields t, (f.input? entries).isSome = true) (hf : f ∈ c.storedFields t)
    (now : Float) (properties : Entries) :
    f.Takes (c.readingIn now t properties) (entity.attr f.name) := by
  obtain ⟨n, attributes, inner, rfl, holds⟩ :=
    holdsMade_of_construct (declared.nodup_names_fieldsOf t) constructed given
  obtain ⟨earlier, depth, v, a, accepted, lookup⟩ := holds f hf
  -- A stable type gives the very value again; that it takes it is enough here.
  obtain ⟨a', accepted', -⟩ := stable.givesAgain_acceptWithin
    (c.recognises_readingAt earlier now depth (fun _ => Value.entriesDepth properties) n) f.bounds
    v a accepted
  refine ⟨a', ?_⟩
  rw [readingIn, inner, Option.getD_some, Value.attr, Value.attr?, lookup, Option.getD_some]
  exact accepted'

/-- A field none of whose names is a property of the new node is given nothing. -/
theorem input?_created_eq_none
    (apart : ∀ name ∈ f.inputNames, name ∉ d.settableKeys ++ [identifierKey]) :
    f.input? (Request.createdProperties d entity identifier) = none := by
  refine List.findSome?_eq_none_iff.mpr fun name hn => ?_
  have strange : (Request.createdValues d entity identifier).lookup name = none := by
    rw [Assoc.lookup_eq_none_iff, d.keys_createdValues]
    exact apart name hn
  rw [Request.createdProperties, Value.lookup_ofNames, strange, Option.map_none]

/-- **Where types are stable and names are apart, it depends on the type alone** whether new nodes
read back: fields that are not stored need defaults. Only the new identifier has to be taken. -/
theorem readsBack_iff_of_stable (declared : c.Declared) {made : Float} {entries : Entries}
    (constructed : c.construct made t entries = .ok entity)
    (given : ∀ f ∈ c.storedFields t, (f.input? entries).isSome = true)
    (stable : ∀ f ∈ c.storedFields t, f.key ≠ identifierKey → f.type.Stable)
    (apart : ∀ f ∈ c.fieldsOf t, c.isStored f = false →
      ∀ name ∈ f.inputNames, name ∉ d.settableKeys ++ [identifierKey])
    (now : Float) {properties : Entries}
    (created : properties = Request.createdProperties d entity identifier) :
    c.ReadsBack now t entity identifier properties ↔
      (∀ f ∈ c.fieldsOf t, c.isStored f = false → f.default ≠ .required) ∧
        ∀ f ∈ c.storedFields t, f.key = identifierKey →
          f.Takes (c.readingIn now t properties) (.text identifier) := by
  have unserved (f : Field) (hf : f ∈ c.fieldsOf t) (other : c.isStored f = false) :
      f.IsServed (c.readingIn now t properties) properties ↔ f.default ≠ .required := by
    refine Field.isServed_of_input?_eq_none ?_
    rw [created]
    exact input?_created_eq_none (apart f hf other)
  constructor
  · intro h
    exact ⟨fun f hf other => (unserved f hf other).mp (h.others f hf other), h.identified⟩
  · rintro ⟨filled, identified⟩
    exact
      { identified
        again := fun f hf other =>
          takes_again (stable f hf other) constructed declared given hf now properties
        others := fun f hf other => (unserved f hf other).mpr (filled f hf other) }

end Catalog

/-! ### Creating a node, and reporting it -/

/-- **A result reports a new node**: one node was created, and the first row gives a node with
exactly the properties that were bound. -/
structure Result.Reports (result : Result) (parameters : Value) : Prop where
  /-- One node was created. -/
  created : result.counters.nodesCreated = 1
  /-- The first row gives the node. -/
  returned : ∃ record rest, result.records = record :: rest ∧ record.Gives parameters

namespace Client

variable {σ : Type} [Database σ] {c : Catalog} {t : EntityRef} {d : Descriptor} {entity : Value}
  {w u v : World σ} {r : Request} {result : Result}

/-- What is returned for a new node that is reported is what is made of its properties. -/
theorem perform_add_of_reported (typed : entity.entityType? = some t)
    (described : c.describeRef t = .ok d)
    (prepared : (prepare c (.add entity)).perform w = (.ok r, u))
    (answered : (execute r.statement r.parameters).perform u = (.ok result, v))
    (reported : result.Reports r.parameters) :
    r.parameters = .map (Request.createdProperties d entity w.nextIdentifier) ∧
      ((perform c (.add entity)).perform w).1 =
        c.construct v.now t (Request.createdProperties d entity w.nextIdentifier) := by
  have requested : (Operation.add entity).request c w.now w.nextIdentifier = .ok _ :=
    Request.add_eq typed described w.nextIdentifier
  obtain ⟨u', prepared', -, -⟩ := exists_perform_prepare requested
  obtain ⟨same, rfl⟩ := Prod.mk.inj (prepared.symm.trans prepared')
  obtain rfl := Except.ok.inj same
  refine ⟨rfl, ?_⟩
  obtain ⟨created, record, rest, rows, gives⟩ := reported
  have found : result.firstValue.nodeProperties =
      .ok (some (Request.createdProperties d entity w.nextIdentifier)) := by
    rw [Result.firstValue, rows]
    exact gives.nodeProperties
  have written : result.counters.nodesCreated ≠ 0 := by omega
  rw [perform, perform_bind_ok prepared', send, perform_bind_ok answered, read]
  dsimp only
  rw [if_neg written, perform_bind_ok (perform_note _ _ _ v), readNode, found,
    perform_bind_ok (perform_ofOutcome _ _), perform_entityOf]
  rfl

/-- **When a new node is returned as an entity.** Take a type that is fit for use, with different
properties for its stored fields, and an entity of it that was made of a map with a value for each
of them. Let a node be created from it, and let the database report the node as it was told to make
it.

An entity of the type is returned exactly if the new node reads back. If it does not, a refusal to
make the entity is all that comes back of a node that is there.

And if the types of the stored fields are stable, and no other field goes by a name under which
something is stored, then new nodes read back exactly if all fields that are not stored have
defaults and the field of the identifier takes the new one. -/
theorem add_returns_iff (declared : c.Declared) (described : c.describeRef t = .ok d)
    (distinct : ((c.storedFields t).map Field.key).Nodup) (typed : entity.entityType? = some t)
    {made : Float} {entries : Entries} (constructed : c.construct made t entries = .ok entity)
    (given : ∀ f ∈ c.storedFields t, (f.input? entries).isSome = true)
    (prepared : (prepare c (.add entity)).perform w = (.ok r, u))
    (answered : (execute r.statement r.parameters).perform u = (.ok result, v))
    (reported : result.Reports r.parameters) :
    ∃ properties, r.parameters = .map properties ∧
      ((∃ again, ((perform c (.add entity)).perform w).1 = .ok again ∧ again.entityType? = some t) ↔
        c.ReadsBack v.now t entity w.nextIdentifier properties) ∧
      (¬ c.ReadsBack v.now t entity w.nextIdentifier properties →
        ∃ refusal : Refusal, ((perform c (.add entity)).perform w).1 = .error refusal.toFailure) ∧
      ((∀ f ∈ c.storedFields t, f.key ≠ identifierKey → f.type.Stable) →
        (∀ f ∈ c.fieldsOf t, c.isStored f = false →
          ∀ name ∈ f.inputNames, name ∉ d.settableKeys ++ [identifierKey]) →
        (c.ReadsBack v.now t entity w.nextIdentifier properties ↔
          (∀ f ∈ c.fieldsOf t, c.isStored f = false → f.default ≠ .required) ∧
            ∀ f ∈ c.storedFields t, f.key = identifierKey →
              f.Takes (c.readingIn v.now t properties) (.text w.nextIdentifier))) := by
  obtain ⟨parameters, outcome⟩ := perform_add_of_reported typed described prepared answered reported
  have resolved : c.resolve t = t := by
    obtain ⟨-, -, n, -, attributes, -, rfl⟩ := Catalog.construct_eq_ok_iff.mp constructed
    exact Option.some.inj typed
  obtain ⟨returned, refused⟩ := Catalog.construct_created declared described distinct v.now entity
    w.nextIdentifier rfl
  rw [resolved] at returned
  rw [outcome]
  exact ⟨_, parameters, returned, refused, fun stable apart =>
    Catalog.readsBack_iff_of_stable declared constructed given stable apart v.now rfl⟩

end Client

/-! ### Users and visitors -/

namespace Example

/-- The result that reports the node that a request asks for. -/
def reporting (request : Request) : Result :=
  { records := [⟨[("n", request.parameters)]⟩]
    counters := { nodesCreated := 1 } }

/-- It does report it, if the parameters bound are different. -/
theorem reports_reporting {request : Request} {entries : Entries}
    (bound : request.parameters = .map entries) (once : Assoc.ofEntries entries = entries) :
    (reporting request).Reports request.parameters where
  created := rfl
  returned := by
    have gives : Record.Gives ⟨[("n", request.parameters)]⟩ (.map (Assoc.ofEntries entries)) :=
      .node (by rw [bound]; rfl)
    refine ⟨_, [], rfl, ?_⟩
    rw [once, ← bound] at gives
    exact gives

/-- What is known of a user with an address. -/
def userEntries : Entries :=
  [(.text "Uuid", .null), (.text "CreatedAt", .float 0), (.text "UpdatedAt", .null),
    (.text "IsDeleted", .bool false), (.text "Email", .text "a@x")]

/-- What is stored of users has stable types. -/
theorem stable_of_mem_users : ∀ f ∈ users.storedFields user.ref, f.type.Stable := by
  intro f hf
  obtain ⟨field, stored⟩ := Catalog.mem_storedFields.mp hf
  have fields : users.fieldsOf user.ref = baseFields ++ user.fields.drop 4 := rfl
  rw [fields] at field
  rcases List.mem_append.mp field with base | own
  · exact stable_of_mem_baseFields f base
  · rcases List.mem_pair.mp own with rfl | rfl
    · -- Addresses have the type of identifiers.
      exact stable_of_mem_baseFields baseFields[0] List.mem_cons_self
    · cases stored

/-- The request to create this user. -/
def newUser : Request :=
  { statement := "CREATE (n:User\x7bCreatedAt:$CreatedAt,UpdatedAt:$UpdatedAt," ++
      "IsDeleted:$IsDeleted,Email:$Email,Uuid:$Uuid\x7d) RETURN n"
    parameters := .map
      [(.text "CreatedAt", .float 0), (.text "UpdatedAt", .null), (.text "IsDeleted", .bool false),
        (.text "Email", .text "a@x"), (.text "Uuid", .text "00000000-0000-0000-0000-000000000001")]
    reading := .createdNode user.ref "User" "00000000-0000-0000-0000-000000000001" }

/-- The declaration of visitors: they have a nickname, which is not stored, and has to be given. -/
def visitorDeclaration : Declaration :=
  { name := "Visitor"
    fields := [{ name := "nickname", type := .plain .text, marks := [.notMapped] }] }

/-- Visitors. -/
def visitor : EntityType := Catalog.declared {} baseFields visitorDeclaration

/-- The catalog of visitors. -/
def visitors : Catalog := ⟨[visitor]⟩

/-- What is known of a visitor. -/
def visitorEntries : Entries :=
  [(.text "Uuid", .null), (.text "CreatedAt", .float 0), (.text "UpdatedAt", .null),
    (.text "IsDeleted", .bool false), (.text "nickname", .text "Al")]

/-- The visitor. -/
def oneVisitor : Value :=
  .entity visitor.ref
    [("uuid", .null), ("created_at", .float 0), ("updated_at", .null), ("is_deleted", .bool false),
      ("nickname", .text "Al")]

/-- The request to create this visitor. -/
def newVisitor : Request :=
  { statement := "CREATE (n:Visitor\x7bCreatedAt:$CreatedAt,UpdatedAt:$UpdatedAt," ++
      "IsDeleted:$IsDeleted,Uuid:$Uuid\x7d) RETURN n"
    parameters := .map
      [(.text "CreatedAt", .float 0), (.text "UpdatedAt", .null), (.text "IsDeleted", .bool false),
        (.text "Uuid", .text "00000000-0000-0000-0000-000000000001")]
    reading := .createdNode visitor.ref "Visitor" "00000000-0000-0000-0000-000000000001" }

end Example

namespace Client

set_option maxRecDepth 2000 in
/-- A user that was created is returned: friends are not stored, but there are none by default. -/
theorem add_returns_iff_users : ∃ again,
    ((perform Example.users (.add (Example.userWith "a@x"))).perform
      (Example.connected [Example.reporting Example.newUser])).1 = .ok again ∧
      again.entityType? = some Example.user.ref := by
  have typed : (Example.userWith "a@x").entityType? = some Example.user.ref := rfl
  obtain ⟨d, described, apart⟩ : ∃ d, Example.users.describeRef Example.user.ref = .ok d ∧
      ∀ f ∈ Example.users.fieldsOf Example.user.ref, Example.users.isStored f = false →
        ∀ name ∈ f.inputNames, name ∉ d.settableKeys ++ [identifierKey] := ⟨_, rfl, by decide⟩
  have distinct : ((Example.users.storedFields Example.user.ref).map Field.key).Nodup := by decide
  have constructed : Example.users.construct 0 Example.user.ref Example.userEntries =
      .ok (Example.userWith "a@x") := rfl
  have prepared : (prepare Example.users (.add (Example.userWith "a@x"))).perform
      (Example.connected [Example.reporting Example.newUser]) = (.ok Example.newUser, _) := rfl
  obtain ⟨properties, bound, returned, -, readsBack⟩ :=
    add_returns_iff Example.declared_users described distinct typed constructed (by decide)
      prepared rfl (Example.reports_reporting rfl rfl)
  obtain rfl := Value.map.inj bound
  refine returned.mpr ((readsBack ?_ apart).mpr ⟨by decide, ?_⟩)
  · exact fun f hf _ => Example.stable_of_mem_users f hf
  · intro f hf keyed
    have own : baseFields[0] ∈ Example.users.storedFields Example.user.ref :=
      Catalog.mem_storedFields.mpr ⟨List.mem_append_left _ List.mem_cons_self, rfl⟩
    obtain rfl := List.inj_on_of_nodup_map distinct hf own keyed
    exact ⟨_, rfl⟩

/-- **It is not enough that the database reports the new node**: a visitor has a nickname, which is
not stored, so no visitor can be made of a node. -/
theorem not_add_returns_visitors :
    ¬ ∀ (c : Catalog) (t : EntityRef) (d : Descriptor) (entity : Value) (made : Float)
        (entries : Entries) (w u v : World Scripted) (r : Request) (result : Result),
      c.Declared → c.describeRef t = .ok d → ((c.storedFields t).map Field.key).Nodup →
      entity.entityType? = some t → c.construct made t entries = .ok entity →
      (∀ f ∈ c.storedFields t, (f.input? entries).isSome = true) →
      (prepare c (.add entity)).perform w = (.ok r, u) →
      (execute r.statement r.parameters).perform u = (.ok result, v) →
      result.Reports r.parameters →
      ∃ again, ((perform c (.add entity)).perform w).1 = .ok again := by
  intro h
  have declared : Example.visitors.Declared :=
    .declare (d := Example.visitorDeclaration) .nothing rfl
  obtain ⟨d, described⟩ : ∃ d, Example.visitors.describeRef Example.visitor.ref = .ok d := ⟨_, rfl⟩
  have prepared : (prepare Example.visitors (.add Example.oneVisitor)).perform
      (Example.connected [Example.reporting Example.newVisitor]) =
        (.ok Example.newVisitor, _) := rfl
  obtain ⟨again, returned⟩ := h Example.visitors Example.visitor.ref d Example.oneVisitor 0
    Example.visitorEntries _ _ _ _ _ declared described (by decide) rfl rfl (by decide) prepared rfl
    (Example.reports_reporting rfl rfl)
  have missing : ((perform Example.visitors (.add Example.oneVisitor)).perform
      (Example.connected [Example.reporting Example.newVisitor])).1 =
        .error (.validation [⟨[.key "nickname"], .missing⟩]) := rfl
  cases missing.symm.trans returned

end Client

end GraphMapper
