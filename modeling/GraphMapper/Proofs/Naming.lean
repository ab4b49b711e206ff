import GraphMapper.Proofs.Catalog.Inherited
import GraphMapper.Proofs.Decoding
import GraphMapper.Proofs.Sending

/-!
# Names of attributes and names of properties

A field has two names: that of its attribute, and that of the property it is stored under. Where
properties are named, either can be used, and a translation finds out which property is meant: it
looks for the attribute first, and takes a name of no attribute as that of a property. So the name
of an attribute always stands for the property of its field
(`GraphMapper.Catalog.Declared.graphKey_of_mem`).

The name of a property need not stand for itself, since it may be the name of an attribute too. It
does unless that attribute is stored under another property. A descriptor in which this does not
happen is **unambiguous** (`GraphMapper.Descriptor.Unambiguous`), and
`GraphMapper.Client.interchangeable_iff` says that this is all there is to it: it is what it takes
for properties to stand for themselves, for translating twice to be translating once, and for the
names of a field to make no difference to the operations that are given some.
-/

namespace GraphMapper

open Outcome

namespace FieldDescriptor

/-- What a field can be called. -/
def names (f : FieldDescriptor) : List String := [f.name, f.key]

end FieldDescriptor

namespace Descriptor

variable {d : Descriptor} {a b : String}

/-- No property of a field is the name of an attribute that is stored under another property. -/
def Unambiguous (d : Descriptor) : Prop :=
  ∀ f ∈ d.fields, ∀ g ∈ d.fields, g.name = f.key → g.key = f.key

instance (d : Descriptor) : Decidable d.Unambiguous :=
  inferInstanceAs (Decidable (∀ f ∈ d.fields, ∀ g ∈ d.fields, g.name = f.key → g.key = f.key))

/-- Two names are names of one field. -/
def SameField (d : Descriptor) (a b : String) : Prop :=
  ∃ f ∈ d.fields, a ∈ f.names ∧ b ∈ f.names

/-- Two entries give one value to one property: what they call it are names of one field, if it is
not the same. -/
def SameEntry (d : Descriptor) (e e' : Value × Value) : Prop :=
  (e.1 = e'.1 ∨ ∃ a b, d.SameField a b ∧ e.1 = .text a ∧ e'.1 = .text b) ∧ e.2 = e'.2

/-- Two mappings that are the same but for what they call the fields. -/
def SameNames (d : Descriptor) (properties properties' : Value) : Prop :=
  ∃ entries entries', properties.mapping? = some entries ∧ properties'.mapping? = some entries' ∧
    List.Forall₂ d.SameEntry entries entries'

/-! ### What a name stands for -/

/-- A name stands for the property of its attribute, or it is the name of none and stands for
itself. -/
theorem graphKey_cases (d : Descriptor) (name : Value) :
    (∃ f ∈ d.fields, name = .text f.name ∧ d.graphKey name = .text f.key) ∨
      (∀ f ∈ d.fields, name ≠ .text f.name) ∧ d.graphKey name = name := by
  unfold graphKey
  split
  · next f found =>
    refine .inl ⟨f, List.mem_of_find?_eq_some found, ?_, rfl⟩
    have asked := List.find?_some found
    cases name with
    | text s => exact congrArg Value.text (by simpa [Value.text?] using asked)
    | _ => simp [Value.text?] at asked
  · next none =>
    refine .inr ⟨fun f hf => ?_, rfl⟩
    rintro rfl
    simpa [Value.text?] using List.find?_eq_none.mp none f hf

end Descriptor

namespace Catalog

variable {c : Catalog} {t : EntityRef} {d : Descriptor}

/-- **The property of a field stands for itself** exactly if no attribute that is stored under
another property has this name. -/
theorem Declared.graphKey_key_iff (declared : c.Declared) (h : c.describeRef t = .ok d)
    (f : FieldDescriptor) : d.graphKey (.text f.key) = .text f.key ↔
      ∀ g ∈ d.fields, g.name = f.key → g.key = f.key := by
  constructor
  · intro itself g hg named
    rw [← named, declared.graphKey_of_mem h hg, Value.text.injEq] at itself
    rw [itself, named]
  · intro clear
    rcases d.graphKey_cases (.text f.key) with ⟨g, hg, named, stands⟩ | ⟨-, itself⟩
    · rw [stands, clear g hg (Value.text.inj named).symm]
    · exact itself

theorem Declared.graphKey_keys_iff (declared : c.Declared) (h : c.describeRef t = .ok d) :
    (∀ f ∈ d.fields, d.graphKey (.text f.key) = .text f.key) ↔ d.Unambiguous :=
  forall₂_congr fun f _ => declared.graphKey_key_iff h f

/-- **Without ambiguity, each name of a field stands for its property.** -/
theorem Declared.graphKey_of_mem_names (declared : c.Declared) (h : c.describeRef t = .ok d)
    (clear : d.Unambiguous) {f : FieldDescriptor} (hf : f ∈ d.fields) {name : String}
    (called : name ∈ f.names) : d.graphKey (.text name) = .text f.key := by
  simp only [FieldDescriptor.names, List.mem_cons, List.not_mem_nil, or_false] at called
  rcases called with rfl | rfl
  · exact declared.graphKey_of_mem h hf
  · exact (declared.graphKey_keys_iff h).mpr clear f hf

/-! ### Translating twice -/

theorem Declared.graphKey_idem_iff (declared : c.Declared) (h : c.describeRef t = .ok d) :
    (∀ name, d.graphKey (d.graphKey name) = d.graphKey name) ↔ d.Unambiguous := by
  rw [← declared.graphKey_keys_iff h]
  constructor
  · intro idem f hf
    rw [← declared.graphKey_of_mem h hf]
    exact idem _
  · intro kept name
    rcases d.graphKey_cases name with ⟨f, hf, -, stands⟩ | ⟨-, itself⟩
    · rw [stands, kept f hf]
    · rw [itself, itself]

/-- If properties stand for themselves, what was translated is left alone. -/
theorem translate_of_idem (idem : ∀ name, d.graphKey (d.graphKey name) = d.graphKey name)
    (properties : Entries) : d.translate (d.translate properties) = d.translate properties := by
  have settled : ∀ e ∈ d.translate properties, d.graphKey e.1 = e.1 ∧ True := by
    refine Assoc.forall_mem_ofEntries (P := fun name => d.graphKey name = name)
      (Q := fun _ => True) fun e he => ?_
    obtain ⟨given, -, rfl⟩ := List.mem_map.mp he
    exact ⟨idem given.1, trivial⟩
  have same : (d.translate properties).map (fun e => (d.graphKey e.1, e.2)) =
      d.translate properties := by
    conv_rhs => rw [← List.map_id (d.translate properties)]
    exact List.map_congr_left fun e he => by rw [(settled e he).1]; rfl
  rw [Descriptor.translate, same]
  exact Assoc.ofEntries_of_apart (Assoc.apart_ofEntries _)

theorem translate_single (d : Descriptor) (name value : Value) :
    d.translate [(name, value)] = [(d.graphKey name, value)] := rfl

theorem Declared.translate_idem_iff (declared : c.Declared) (h : c.describeRef t = .ok d) :
    (∀ properties, d.translate (d.translate properties) = d.translate properties) ↔
      d.Unambiguous := by
  rw [← declared.graphKey_idem_iff h]
  refine ⟨fun idem name => ?_, translate_of_idem⟩
  have twice := idem [(name, .null)]
  rw [translate_single, translate_single, List.singleton_inj] at twice
  exact congrArg Prod.fst twice

/-- Without ambiguity, entries that are the same but for what they call the fields are translated to
the same. -/
theorem Declared.translate_eq (declared : c.Declared) (h : c.describeRef t = .ok d)
    (clear : d.Unambiguous) {entries entries' : Entries}
    (same : List.Forall₂ d.SameEntry entries entries') :
    d.translate entries = d.translate entries' := by
  have each : entries.map (fun e => (d.graphKey e.1, e.2)) =
      entries'.map fun e => (d.graphKey e.1, e.2) := by
    induction same with
    | nil => rfl
    | @cons e e' _ _ first _ ih =>
      obtain ⟨called, value⟩ := first
      have stands : d.graphKey e.1 = d.graphKey e'.1 := by
        rcases called with same | ⟨a, b, ⟨f, hf, ha, hb⟩, he, he'⟩
        · rw [same]
        · rw [he, he', declared.graphKey_of_mem_names h clear hf ha,
            declared.graphKey_of_mem_names h clear hf hb]
      rw [List.map_cons, List.map_cons, ih, stands, value]
  rw [Descriptor.translate, Descriptor.translate, each]

end Catalog

/-! ### Operations that are given names -/

/-- Operations on the nodes of a type that are the same but for what they call the fields. A name
that is blank is refused before it is translated. -/
inductive Operation.Renames (t : EntityRef) (d : Descriptor) : Operation → Operation → Prop where
  /-- Reading by one property. -/
  | getByProperty {a b : String} (value : Value) (same : d.SameField a b)
      (blank : Text.isBlank a = Text.isBlank b) :
      Renames t d (.getByProperty (.type (.entity t)) (.text a) value)
        (.getByProperty (.type (.entity t)) (.text b) value)
  /-- Reading by properties. -/
  | getByProperties {properties properties' : Value} (same : d.SameNames properties properties') :
      Renames t d (.getByProperties (.type (.entity t)) properties)
        (.getByProperties (.type (.entity t)) properties')
  /-- Removing by properties. -/
  | dropByProperties {properties properties' : Value} (same : d.SameNames properties properties') :
      Renames t d (.dropByProperties (.type (.entity t)) properties)
        (.dropByProperties (.type (.entity t)) properties')
  /-- Creating or updating the node with some properties. -/
  | merge {onCreate properties properties' : Value} (onUpdate : Value)
      (typed : onCreate.entityType? = some t) (same : d.SameNames properties properties') :
      Renames t d (.merge onCreate onUpdate properties) (.merge onCreate onUpdate properties')

namespace Request

variable {c : Catalog} {t : EntityRef} {d : Descriptor} {properties properties' : Value}

theorem entityType_of_describeRef (h : c.describeRef t = .ok d) :
    Argument.entityType c (.type (.entity t)) = .ok (t, d) := by
  show (c.describeRef t >>= fun d => pure (t, d)) = _
  rw [h]
  rfl

/-- What is wrong with a mapping has nothing to do with its names; and if nothing is, then it is
translated to the same. -/
theorem properties_of_sameNames (declared : c.Declared) (h : c.describeRef t = .ok d)
    (clear : d.Unambiguous) (same : d.SameNames properties properties') (argument : String) :
    (∃ e, Argument.properties argument properties = .error e ∧
        Argument.properties argument properties' = .error e) ∨
      ∃ entries entries', Argument.properties argument properties = .ok entries ∧
        Argument.properties argument properties' = .ok entries' ∧
        d.translate entries = d.translate entries' := by
  obtain ⟨entries, entries', listed, listed', same⟩ := same
  have translated := declared.translate_eq h clear same
  unfold Argument.properties
  rw [listed, listed']
  cases same with
  | nil => exact .inl ⟨_, rfl, rfl⟩
  | cons _ _ => exact .inr ⟨_, _, rfl, rfl, translated⟩

/-- **Without ambiguity, the names of fields make no difference to a request.** -/
theorem request_of_renames (declared : c.Declared) (h : c.describeRef t = .ok d)
    (clear : d.Unambiguous) {operation operation' : Operation}
    (renames : Operation.Renames t d operation operation') (now : Float) (identifier : String) :
    operation.request c now identifier = operation'.request c now identifier := by
  have typed := entityType_of_describeRef h
  cases renames with
  | @getByProperty a b value same blank =>
    obtain ⟨f, hf, ha, hb⟩ := same
    have stands := (declared.graphKey_of_mem_names h clear hf ha).trans
      (declared.graphKey_of_mem_names h clear hf hb).symm
    simp only [Operation.request, Request.getByProperty, Argument.propertyName, Argument.nonBlank,
      blank]
    split
    · rfl
    · simp only [ok_bind, typed, stands]
  | getByProperties same =>
    simp only [Operation.request, Request.getByProperties]
    rcases properties_of_sameNames declared h clear same "properties" with
      ⟨e, refused, refused'⟩ | ⟨entries, entries', taken, taken', translated⟩
    · rw [refused, refused']
    · simp only [taken, taken', typed, ok_bind, translated]
  | dropByProperties same =>
    have described : c.describe (.type (.entity t)) = .ok d := h
    simp only [Operation.request, Request.dropByProperties]
    rcases properties_of_sameNames declared h clear same "properties" with
      ⟨e, refused, refused'⟩ | ⟨entries, entries', taken, taken', translated⟩
    · rw [refused, refused']
    · simp only [taken, taken', described, ok_bind, translated]
  | @merge onCreate _ _ onUpdate created same =>
    have typed : Argument.entity "entity_on_create" onCreate = .ok t := by
      rw [Argument.entity, created]
    simp only [Operation.request, Request.merge, typed, ok_bind]
    rcases properties_of_sameNames declared h clear same "where" with
      ⟨e, refused, refused'⟩ | ⟨entries, entries', taken, taken', translated⟩
    · rw [refused, refused']
    · simp only [taken, taken', h, ok_bind, translated]

/-- A condition on one property either binds it or complains about it. -/
theorem condition_single (key : String) :
    (∃ clause, Clause.condition "" [(.text key, .null)] = .ok clause ∧
        clause.parameters = [(key, .null)]) ∨
      Clause.condition "" [(.text key, .null)] =
        .error (.invalidIdentifier (.text key) "property key") := by
  cases made : Clause.condition "" [(.text key, .null)] with
  | ok clause =>
    have apart : Assoc.Apart [(Value.text key, Value.null)] := List.pairwise_singleton _ _
    have bound := (Clause.recovers_of_condition (.inl rfl) apart made).parameters
    exact .inl ⟨clause, rfl, by simpa [Value.display] using bound⟩
  | error e =>
    obtain ⟨before, entry, after, whole, -, refused⟩ := Clause.exists_of_condition_eq_error made
    obtain ⟨-, rfl, -⟩ : before = [] ∧ entry = (.text key, .null) ∧ after = [] := by
      simpa [List.singleton_eq_append_iff] using whole
    exact .inr (congrArg _ (Clause.eq_of_require_eq_error refused))

/-- **Reading by different properties makes different requests**: each is bound, or complained
about. -/
theorem eq_of_getByProperties_eq (h : c.describeRef t = .ok d) {a b key key' : String}
    (ha : d.graphKey (.text a) = .text key) (hb : d.graphKey (.text b) = .text key')
    (same : getByProperties c (.type (.entity t)) (.map [(.text a, .null)]) =
      getByProperties c (.type (.entity t)) (.map [(.text b, .null)])) : key = key' := by
  have single {name key : String} (stands : d.graphKey (.text name) = .text key) :
      getByProperties c (.type (.entity t)) (.map [(.text name, .null)]) =
        (Clause.condition "" [(.text key, .null)]).map fun clause =>
          ⟨Wording.getByProperties d.label.text clause.text "" nodeVariable,
            .ofParameters clause.parameters, .nodesWithRelated t⟩ := by
    have taken : Argument.properties "properties" (.map [(.text name, .null)]) =
        .ok [(.text name, .null)] := rfl
    simp only [getByProperties, taken, entityType_of_describeRef h, ok_bind,
      Catalog.translate_single, stands]
    cases Clause.condition "" [(.text key, .null)] with
    | error e => rfl
    | ok clause =>
      have rendered : Template.getByProperties.render (substitutions [("label", d.label.text),
          ("clause", clause.text), ("relationship", ""), ("relatedNode", ""),
          ("result", nodeVariable)]) =
            .ok (Wording.getByProperties d.label.text clause.text "" nodeVariable) :=
        Wording.render_getByProperties ..
      rw [ok_bind, rendered]
      rfl
  rw [single ha, single hb] at same
  rcases condition_single key with ⟨clause, made, bound⟩ | refused <;>
    rcases condition_single key' with ⟨clause', made', bound'⟩ | refused'
  · rw [made, made'] at same
    have held := congrArg Request.parameters (Except.ok.inj same)
    have texts : Value.ofNames [(key, .null)] = Value.ofNames [(key', .null)] := by
      rw [← bound, ← bound']
      exact Value.map.inj held
    simpa [Value.ofNames] using texts
  · rw [made, refused'] at same
    cases same
  · rw [refused, made'] at same
    cases same
  · rw [refused, refused'] at same
    exact Value.text.inj (Failure.invalidIdentifier.inj (Except.error.inj same)).1

end Request

/-! ### A small clash

Tickets are stored with the person who made them as their `owner`, and the person who has them now
as their `Owner`, which is the attribute `owner`. -/

namespace Example

/-- The declaration of tickets. -/
def ticketDeclaration : Declaration :=
  { name := "Ticket"
    fields :=
      [{ name := "created_by", type := .plain .text, alias? := some "owner" },
       { name := "owner", type := .plain .text, alias? := some "Owner" }] }

/-- The type of tickets. -/
def ticket : EntityType :=
  { number := 0
    name := "Ticket"
    label := .text "Ticket"
    fields := baseFields ++ ticketDeclaration.fields }

/-- The catalog of tickets. -/
def tickets : Catalog := ⟨[ticket]⟩

end Example

namespace Client

variable {σ : Type} [Database σ] {c : Catalog} {t : EntityRef} {d : Descriptor}

/-- **An operation does what it requests**, so operations that request the same do the same. -/
theorem perform_congr {operation operation' : Operation}
    (same : ∀ now identifier,
      operation.request c now identifier = operation'.request c now identifier)
    (drawn : operation.needsIdentifier = operation'.needsIdentifier) :
    (perform c operation : Action σ Value) = perform c operation' := by
  have prepared : (prepare c operation : Action σ Request) = prepare c operation' := by
    unfold prepare
    simp only [same, drawn]
  unfold perform
  rw [prepared]

theorem perform_of_renames (declared : c.Declared) (h : c.describeRef t = .ok d)
    (clear : d.Unambiguous) {operation operation' : Operation}
    (renames : Operation.Renames t d operation operation') :
    (perform c operation : Action σ Value) = perform c operation' := by
  refine perform_congr (Request.request_of_renames declared h clear renames) ?_
  cases renames <;> rfl

/-- If an attribute has the name of another property, then reading by that property reads by
another one. -/
theorem unambiguous_of_renames (declared : c.Declared) (h : c.describeRef t = .ok d)
    (same : ∀ operation operation', Operation.Renames t d operation operation' →
      ∀ now identifier, operation.request c now identifier = operation'.request c now identifier) :
    d.Unambiguous := by
  intro f hf g hg named
  have own := declared.graphKey_of_mem h hf
  have other := declared.graphKey_of_mem h hg
  rw [named] at other
  have called : d.SameNames (.map [(.text f.name, .null)]) (.map [(.text f.key, .null)]) :=
    ⟨_, _, rfl, rfl, .cons ⟨.inr ⟨f.name, f.key, ⟨f, hf, by simp [FieldDescriptor.names],
      by simp [FieldDescriptor.names]⟩, rfl, rfl⟩, rfl⟩ .nil⟩
  have requested := same _ _ (.getByProperties called) 0 ""
  exact (Request.eq_of_getByProperties_eq h own other requested).symm

/-- **Attributes and properties name fields alike, exactly if nothing is ambiguous.** The name of an
attribute always stands for the property of its field; the name of a property stands for itself
unless it is that of an attribute with another property. Where there is no such attribute, a name
that was translated is left alone, and so is a mapping, and operations that are given one or the
other name of a field are the same. Where there is one, all of this fails. -/
theorem interchangeable_iff (declared : c.Declared) (h : c.describeRef t = .ok d) :
    (∀ f ∈ d.fields, d.graphKey (.text f.name) = .text f.key ∧
      (d.graphKey (.text f.key) = .text f.key ↔ ∀ g ∈ d.fields, g.name = f.key → g.key = f.key)) ∧
    ((∀ name, d.graphKey (d.graphKey name) = d.graphKey name) ↔ d.Unambiguous) ∧
    ((∀ properties, d.translate (d.translate properties) = d.translate properties) ↔
      d.Unambiguous) ∧
    ((∀ operation operation', Operation.Renames t d operation operation' → ∀ now identifier,
      operation.request c now identifier = operation'.request c now identifier) ↔
        d.Unambiguous) ∧
    (d.Unambiguous → ∀ operation operation', Operation.Renames t d operation operation' →
      (perform c operation : Action σ Value) = perform c operation') := by
  refine ⟨fun f hf => ⟨declared.graphKey_of_mem h hf, declared.graphKey_key_iff h f⟩,
    declared.graphKey_idem_iff h, declared.translate_idem_iff h,
    ⟨unambiguous_of_renames declared h, fun clear _ _ => ?_⟩, fun clear _ _ => ?_⟩
  · exact Request.request_of_renames declared h clear
  · exact perform_of_renames declared h clear

/-- Users can be looked for by their `email` or by their `Email`. -/
theorem interchangeable_iff_users :
    (perform Example.users (Example.lookFor "a@x") : Action Scripted Value) =
      perform Example.users
        (.getByProperties Example.userType (.map [(.text "Email", .text "a@x")])) := by
  obtain ⟨d, described, clear, f, hf, named⟩ : ∃ d,
      Example.users.describeRef Example.user.ref = .ok d ∧ d.Unambiguous ∧
        ∃ f ∈ d.fields, f.names = ["email", "Email"] := ⟨_, rfl, by decide, by decide⟩
  refine (interchangeable_iff Example.declared_users described).2.2.2.2 clear _ _
    (.getByProperties ⟨_, _, rfl, rfl, .cons ⟨.inr ⟨"email", "Email", ⟨f, hf, ?_, ?_⟩, rfl, rfl⟩,
      rfl⟩ .nil⟩)
  · simp [named]
  · simp [named]

/-- **Properties need not stand for themselves**: tickets are stored with an `owner`, but this is
translated to their `Owner`. -/
theorem not_interchangeable_tickets :
    ¬ ∀ (c : Catalog) (t : EntityRef) (d : Descriptor), c.Declared → c.describeRef t = .ok d →
      ∀ f ∈ d.fields, d.graphKey (.text f.name) = .text f.key ∧
        d.graphKey (.text f.key) = .text f.key := by
  intro h
  have declared : Example.tickets.Declared :=
    .declare (d := Example.ticketDeclaration) .nothing rfl
  obtain ⟨d, described, f, hf, translated⟩ : ∃ d,
      Example.tickets.describeRef Example.ticket.ref = .ok d ∧
        ∃ f ∈ d.fields, d.graphKey (.text f.key) ≠ .text f.key := by
    refine ⟨_, rfl, ⟨"created_by", "owner", false, .scalar⟩, by decide, fun itself => ?_⟩
    have same : "Owner" = "owner" := Value.text.inj itself
    exact absurd same (by decide)
  exact translated (h _ _ d declared described f hf).2

end Client

end GraphMapper
