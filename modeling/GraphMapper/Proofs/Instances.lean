import GraphMapper.Proofs.Declaring
import GraphMapper.Proofs.Descriptor
import GraphMapper.Proofs.Validation.Steady
import Mathlib.Data.List.Nodup

/-!
# Instances

An instance is made of a map field by field (`GraphMapper.Catalog.construct_eq_ok_iff`), and then
changes by assignments. Through all of them each stored field holds what its type made of some
value (`GraphMapper.Catalog.HoldsMade.assignAll`), as long as each was given one to begin with –
defaults are taken as they are – and nothing was assigned under a structural name.

Where the type of a field leads to entity types, what was made are instances in their turn. They
are **recognised** when they are met again (`GraphMapper.Catalog.recognises_readingAt`). This does
not depend on the time, nor on how deeply maps may be nested, but it does depend on how deeply the
instances themselves are: what is validated again has to stand in the same place.
-/

namespace GraphMapper

open Checked Outcome

namespace Catalog

variable {c : Catalog} {r : EntityRef} {n : Nesting} {now : Float} {depth : Nat}

@[simp] theorem fieldsOf_resolve (c : Catalog) (r : EntityRef) :
    c.fieldsOf (c.resolve r) = c.fieldsOf r := by
  rw [fieldsOf, find?, resolve_resolve]
  rfl

/-- What is made of a map is an instance. -/
theorem make_eq_ok {entries : Entries} {a : Accepted}
    (h : c.make now depth n r entries = .ok a) :
    (∃ attributes, a.value = .entity r attributes) ∧ a.frozen = false := by
  cases depth with
  | zero => cases h
  | succ depth =>
    obtain ⟨attributes, -, rfl⟩ := map_eq_ok.mp h
    exact ⟨⟨_, rfl⟩, rfl⟩

/-! ### Instances are recognised -/

variable {make : Nesting → EntityRef → Entries → Checked Accepted}

/-- Instances of a type are instances of it. -/
theorem derives_self (c : Catalog) (r : EntityRef) : c.derives r r = true := by simp [derives]

/-- What is no mapping is no instance, or one already. -/
theorem calm_acceptEntity {v : Value} (h : v.mapping? = none) :
    Calm v (c.acceptEntity make n r v) := by
  unfold acceptEntity
  dsimp only
  split
  · exact (refuses_complain _).calm v
  · cases v with
    | entity s attributes =>
      dsimp only
      split
      · exact (fits_exactly _).calm
      · exact (refuses_complain _).calm _
    | map entries => cases h
    | node entries => cases h
    | _ => exact (refuses_complain _).calm _

/-- An instance of the type stays as it is, unless it is nested too deeply. -/
theorem acceptEntity_entity {n' : Nesting} (inside : n.inside? (c.resolve r) = some n')
    {s : EntityRef} (suits : c.derives s (c.resolve r) = true)
    (attributes : List (String × Value)) :
    c.acceptEntity make n r (.entity s attributes) = .ok (.exactly (.entity s attributes)) := by
  rw [acceptEntity]
  dsimp only
  rw [inside]
  exact if_pos suits

/-- What is accepted as an instance is one of the type, and not nested too deeply. -/
theorem exists_entity_of_acceptEntity {v : Value} {a : Accepted}
    (h : c.acceptEntity (c.make now depth) n r v = .ok a) :
    (∃ n' s attributes, n.inside? (c.resolve r) = some n' ∧ a.value = .entity s attributes ∧
      c.derives s (c.resolve r) = true) ∧ a.frozen = false := by
  unfold acceptEntity at h
  dsimp only at h
  split at h
  · cases h
  · next n' inside =>
    have made {entries : Entries} (h : c.make now depth n' (c.resolve r) entries = .ok a) :
        (∃ n' s attributes, n.inside? (c.resolve r) = some n' ∧ a.value = .entity s attributes ∧
          c.derives s (c.resolve r) = true) ∧ a.frozen = false := by
      obtain ⟨⟨attributes, value⟩, unfrozen⟩ := make_eq_ok h
      exact ⟨⟨n', _, attributes, inside, value, c.derives_self _⟩, unfrozen⟩
    cases v with
    | entity s attributes =>
      dsimp only at h
      split at h
      · next suits =>
        obtain rfl := Except.ok.inj h
        exact ⟨⟨n', s, attributes, inside, rfl, suits⟩, rfl⟩
      · cases h
    | map entries => exact made h
    | node entries => exact made h
    | _ => cases h

/-- What entity types make of values at a time, maps being nested as deeply as said. -/
def readingAt (c : Catalog) (now : Float) (depth : Value → Nat) (n : Nesting) (r : EntityRef)
    (v : Value) : Checked Accepted :=
  c.acceptEntity (c.make now (depth v)) n r v

/-- **Instances are recognised**, whenever they were made and however deeply the maps were
nested. -/
theorem recognises_readingAt (c : Catalog) (now later : Float) (depth depth' : Value → Nat)
    (n : Nesting) : Recognises (c.readingAt now depth n) (c.readingAt later depth' n) where
  entity h := by
    obtain ⟨⟨-, s, attributes, -, value, -⟩, -⟩ := exists_entity_of_acceptEntity h
    exact ⟨s, attributes, value⟩
  again h := by
    obtain ⟨⟨n', s, attributes, inside, value, suits⟩, -⟩ := exists_entity_of_acceptEntity h
    rw [value, readingAt, acceptEntity_entity inside suits]
  calm h _ := calm_acceptEntity h
  unfrozen h := (exists_entity_of_acceptEntity h).2
  unfrozen' h := (exists_entity_of_acceptEntity h).2

/-! ### Making instances -/

/-- The attributes of an instance are made field by field. -/
theorem attributesOf_eq_ok_iff {asEntity : EntityRef → Value → Checked Accepted}
    {fields : List Field} {entries : Entries} {attributes : List (String × Accepted)} :
    attributesOf asEntity now fields entries = .ok attributes ↔
      List.Forall₂ (fun f p => f.made asEntity now entries = .ok p.2 ∧ f.name = p.1)
        fields attributes := by
  rw [attributesOf, gather_map_eq_ok_iff]
  refine ⟨fun h => h.imp ?_, fun h => h.imp ?_⟩
  · rintro f ⟨name, a⟩ h
    obtain ⟨a', made, same⟩ := map_eq_ok.mp h
    obtain ⟨rfl, rfl⟩ := Prod.mk.inj same
    exact ⟨made, rfl⟩
  · rintro f ⟨_, a⟩ ⟨made, rfl⟩
    exact map_eq_ok.mpr ⟨a, made, rfl⟩

/-- The attributes that an instance holds. -/
def held (attributes : List (String × Accepted)) : List (String × Value) :=
  attributes.map fun a => (a.1, a.2.value)

/-- Where the names are different, an attribute holds what was made for its field. -/
theorem exists_made_of_mem {asEntity : EntityRef → Value → Checked Accepted} {fields : List Field}
    {entries : Entries} {attributes : List (String × Accepted)}
    (names : (fields.map Field.name).Nodup)
    (h : attributesOf asEntity now fields entries = .ok attributes) {f : Field} (hf : f ∈ fields) :
    ∃ a, f.made asEntity now entries = .ok a ∧ (held attributes).lookup f.name = some a.value := by
  have each := attributesOf_eq_ok_iff.mp h
  clear h
  induction each with
  | nil => cases hf
  | @cons g p fields attributes first _ ih =>
    obtain ⟨made, name⟩ := first
    obtain ⟨fresh, names⟩ := List.nodup_cons.mp names
    rw [held, List.map_cons, List.lookup_cons]
    rcases List.mem_cons.mp hf with rfl | hf
    · rw [name, beq_self_eq_true]
      exact ⟨p.2, made, rfl⟩
    · have other : f.name ≠ p.1 := fun same =>
        fresh (name ▸ same ▸ List.mem_map_of_mem hf)
      rw [beq_eq_false_iff_ne.mpr other]
      exact ih names hf

/-- If each field can be made, so can the attributes. -/
theorem exists_attributesOf {asEntity : EntityRef → Value → Checked Accepted} {fields : List Field}
    {entries : Entries} (h : ∀ f ∈ fields, ∃ a, f.made asEntity now entries = .ok a) :
    ∃ attributes, attributesOf asEntity now fields entries = .ok attributes := by
  simp only [attributesOf_eq_ok_iff]
  refine exists_forall₂ fun f hf => ?_
  obtain ⟨a, made⟩ := h f hf
  exact ⟨(f.name, a), made, rfl⟩

/-- The nesting inside an instance of a type that is not itself inside another. -/
def innerNesting? (c : Catalog) (r : EntityRef) : Option Nesting :=
  (c.nesting (c.resolve r)).inside? (c.resolve r)

theorem acceptAt_map_eq_ok_iff {entries : Entries} {a : Accepted} :
    c.acceptAt now (c.nesting (c.resolve r)) r (.map entries) = .ok a ↔
      ∃ n, c.innerNesting? r = some n ∧ ∃ attributes,
        attributesOf (c.readingAt now (fun _ => Value.entriesDepth entries) n) now
            (c.fieldsOf r) entries = .ok attributes ∧
          instanceOf (c.resolve r) (c.fieldsOf r) entries attributes = a := by
  rw [acceptAt, acceptEntity, ← fieldsOf_resolve]
  dsimp only
  rw [← innerNesting?]
  cases c.innerNesting? r with
  | none => simp [complain]
  | some n =>
    simp only [Option.some.injEq, exists_eq_left']
    exact map_eq_ok

/-- **An instance is made of a map** exactly if the type is declared with all it refers to, its
bounds suit, and the attributes can be made. -/
theorem construct_eq_ok_iff {entries : Entries} {e : Value} :
    c.construct now r entries = .ok e ↔
      c.unresolved? r = none ∧ c.isSuited r = true ∧ ∃ n, c.innerNesting? r = some n ∧
        ∃ attributes, attributesOf (c.readingAt now (fun _ => Value.entriesDepth entries) n) now
            (c.fieldsOf r) entries = .ok attributes ∧
          .entity (c.resolve r) (held attributes) = e := by
  unfold construct
  split
  · next missing unresolved => simp [unresolved]
  · next resolved =>
    split
    · next suited =>
      simp only [mapError_eq_ok, map_eq_ok, acceptAt_map_eq_ok_iff, resolved, suited, true_and]
      constructor
      · rintro ⟨_, ⟨n, inner, attributes, made, rfl⟩, rfl⟩
        exact ⟨n, inner, attributes, made, rfl⟩
      · rintro ⟨n, inner, attributes, made, rfl⟩
        exact ⟨_, ⟨n, inner, attributes, made, rfl⟩, rfl⟩
    · next unsuited => simp [unsuited]

/-! ### What an instance holds -/

/-- Each stored field holds what the type made of some value. -/
def HoldsMade (c : Catalog) (n : Nesting) (r : EntityRef) (attributes : List (String × Value)) :
    Prop :=
  ∀ f ∈ c.storedFields r, ∃ now depth v a,
    f.accept (c.readingAt now depth n) v = .ok a ∧
      attributes.lookup f.name = some a.value

/-- A field for which a value is given holds what the type makes of it. -/
theorem accept_of_made {asEntity : EntityRef → Value → Checked Accepted} {entries : Entries}
    {f : Field} {a : Accepted} (h : f.made asEntity now entries = .ok a)
    (given : (f.input? entries).isSome = true) : ∃ v, f.accept asEntity v = .ok a := by
  obtain ⟨⟨name, v⟩, input⟩ := Option.isSome_iff_exists.mp given
  rw [Field.made, input] at h
  exact ⟨v, under_eq_ok_iff.mp h⟩

/-- An instance that was made of a map with a value for each stored field holds what the types
made. -/
theorem holdsMade_of_construct (names : ((c.fieldsOf r).map Field.name).Nodup) {entries : Entries}
    {e : Value} (h : c.construct now r entries = .ok e)
    (given : ∀ f ∈ c.storedFields r, (f.input? entries).isSome = true) :
    ∃ n attributes, c.innerNesting? r = some n ∧ e = .entity (c.resolve r) attributes ∧
      c.HoldsMade n r attributes := by
  obtain ⟨-, -, n, inner, attributes, made, rfl⟩ := construct_eq_ok_iff.mp h
  refine ⟨n, held attributes, inner, rfl, fun f hf => ?_⟩
  obtain ⟨a, ha, lookup⟩ := exists_made_of_mem names made (mem_storedFields.mp hf).1
  obtain ⟨v, accepted⟩ := accept_of_made ha (given f hf)
  exact ⟨now, _, v, a, accepted, lookup⟩

/-- An attribute that is assigned to holds what the type of its field makes of the value; no other
attribute changes. -/
theorem assignTo_eq_ok (inner : c.innerNesting? r = some n)
    {attributes attributes' : List (String × Value)} {name : String} {v : Value}
    (h : c.assignTo now (c.resolve r) attributes name v = .ok attributes') :
    attributes' = attributes ∨ ∃ f ∈ c.fieldsOf r, f.name = name ∧ ∃ a,
      f.accept (c.readingAt now Value.depth n) v = .ok a ∧
        attributes' = Assoc.set name a.value attributes := by
  unfold assignTo at h
  rw [fieldsOf_resolve, resolve_resolve] at h
  split_ifs at h
  · exact .inl (Except.ok.inj h).symm
  · split at h
    · cases h
    · next f found =>
      have name : f.name = name := by simpa using List.find?_some found
      split at h
      · cases h
      · dsimp only at h
        rw [show (c.nesting (c.resolve r)).inside? (c.resolve r) = some n from inner,
          Option.getD_some] at h
        split at h
        · next a accepted =>
          refine .inr ⟨f, List.mem_of_find?_eq_some found, name, a, under_eq_ok_iff.mp accepted, ?_⟩
          exact (Except.ok.inj h).symm
        · cases h

/-- Under names that are not structural, what is assigned goes to the attributes. -/
theorem assign_entity {r : EntityRef} {attributes : List (String × Value)} {name : String}
    (apart : name ∉ structuralNames) (v : Value) :
    c.assign now (.entity r attributes) name v =
      (c.assignTo now r attributes name v).map (.entity r) := by
  have notType : name ≠ typeName := by rintro rfl; exact apart (by decide)
  have notAttributes : name ≠ attributesName := by rintro rfl; exact apart (by decide)
  unfold assign
  dsimp only
  rw [if_neg notType, if_neg notAttributes]

/-- **Assigning to an attribute** keeps that each field holds what its type made. -/
theorem HoldsMade.assign (names : ((c.fieldsOf r).map Field.name).Nodup)
    (inner : c.innerNesting? r = some n) {attributes : List (String × Value)} {name : String}
    {v e : Value} (holds : c.HoldsMade n r attributes) (apart : name ∉ structuralNames)
    (h : c.assign now (.entity (c.resolve r) attributes) name v = .ok e) :
    ∃ attributes', e = .entity (c.resolve r) attributes' ∧ c.HoldsMade n r attributes' := by
  rw [assign_entity apart] at h
  obtain ⟨attributes', assigned, rfl⟩ := map_eq_ok.mp h
  refine ⟨attributes', rfl, ?_⟩
  rcases assignTo_eq_ok inner assigned with rfl | ⟨f, hf, rfl, a, accepted, rfl⟩
  · exact holds
  · intro g hg
    by_cases same : g.name = f.name
    · obtain rfl := List.inj_on_of_nodup_map names (mem_storedFields.mp hg).1 hf same
      exact ⟨now, _, v, a, accepted, Assoc.lookup_set_self _ _ _⟩
    · obtain ⟨now', depth', v', a', accepted', lookup⟩ := holds g hg
      exact ⟨now', depth', v', a', accepted', (Assoc.lookup_set_of_ne same _ _).trans lookup⟩

/-- An instance after some assignments, each at a time, to an attribute, of a value. -/
def assignAll (c : Catalog) (entity : Value) (assignments : List (Float × String × Value)) :
    Except Failure Value :=
  assignments.foldlM (fun entity a => c.assign a.1 entity a.2.1 a.2.2) entity

/-- **After any assignments** each stored field holds what its type made of some value. -/
theorem HoldsMade.assignAll (names : ((c.fieldsOf r).map Field.name).Nodup)
    (inner : c.innerNesting? r = some n) {attributes : List (String × Value)}
    {assignments : List (Float × String × Value)} {e : Value}
    (holds : c.HoldsMade n r attributes)
    (apart : ∀ a ∈ assignments, a.2.1 ∉ structuralNames)
    (h : c.assignAll (.entity (c.resolve r) attributes) assignments = .ok e) :
    ∃ attributes', e = .entity (c.resolve r) attributes' ∧ c.HoldsMade n r attributes' := by
  induction assignments generalizing attributes with
  | nil => exact ⟨attributes, (pure_eq_ok.mp h).symm, holds⟩
  | cons a rest ih =>
    obtain ⟨e', assigned, h⟩ := bind_eq_ok.mp h
    obtain ⟨first, others⟩ := List.forall_mem_cons.mp apart
    obtain ⟨attributes', rfl, holds⟩ := holds.assign names inner first assigned
    exact ih holds others h

end Catalog

end GraphMapper
