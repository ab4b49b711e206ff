import GraphMapper.Proofs.Clause
import GraphMapper.Proofs.Declaring
import GraphMapper.Proofs.Instances
import GraphMapper.Proofs.Validation.Stability

/-!
# Reading back what was stored

An instance is stored as the values of its stored fields, each under its property. When it is read
back, an instance is made of these values. Two things have to come together for the two to be the
same. Each field has to find its own value, under its property or else its name: this is so if the
properties are different and no other field answers to them (`GraphMapper.Catalog.Storable`). And
its type has to give again what it once made: this is so if it is stable
(`GraphMapper.TypeExpr.Stable`). Then **what was stored is read back**
(`GraphMapper.Catalog.roundTrips_of_stable`).

Not all types are stable, and with one that is not an instance may be read back as another. And
whoever exchanges the attributes of an instance as a whole may put anything there, which is not
read back either. There are types for each of these
(`GraphMapper.Example.not_roundTrips_exams`).
-/

namespace GraphMapper

open Checked Outcome

/-! ### What is given for a field -/

namespace Field

variable {f : Field} {entries : Entries}

/-- A value given under the property of a field is given for it. -/
theorem exists_input? {v : Value} (blank : entries.lookup (.text "") = none)
    (h : entries.lookup (.text f.key) = some v) : ∃ name, f.input? entries = some (name, v) := by
  unfold key at h
  unfold input? inputNames
  cases other : f.alias? with
  | none =>
    rw [other] at h
    exact ⟨f.name, by simp only [List.findSome?_cons, h, Option.map_some]⟩
  | some a =>
    rw [other] at h
    dsimp only at h
    split at h
    · next empty =>
      -- An empty alias finds nothing, so the name of the attribute is next.
      refine ⟨f.name, ?_⟩
      simp only [List.findSome?_cons, empty, blank, h, Option.map_none, Option.map_some]
    · exact ⟨a, by simp only [List.findSome?_cons, h, Option.map_some]⟩

/-- Where nothing is given under its property or its name, nothing is given for a field. -/
theorem input?_eq_none (blank : entries.lookup (.text "") = none)
    (property : entries.lookup (.text f.key) = none) (name : entries.lookup (.text f.name) = none) :
    f.input? entries = none := by
  unfold key at property
  unfold input? inputNames
  cases other : f.alias? with
  | none => simp only [List.findSome?_cons, List.findSome?_nil, name, Option.map_none]
  | some a =>
    have given : entries.lookup (.text a) = none := by
      rw [other] at property
      dsimp only at property
      split at property
      · next empty => rwa [empty]
      · exact property
    simp only [List.findSome?_cons, List.findSome?_nil, name, given, Option.map_none]

end Field

/-! ### Reading back -/

namespace Catalog

variable {c : Catalog} {r : EntityRef} {d : Descriptor} {n : Nesting}

/-- Whether a default has to be given can be told. -/
instance (d : Default) : Decidable (d = .required) :=
  match d with
  | .required => isTrue rfl
  | .value _ | .emptyList | .currentTime => isFalse (by rintro ⟨⟩)

/-- A type whose instances can be stored and read back: it was described, its stored fields go by
different properties, and the other fields by other names, and those have a default. -/
structure Storable (c : Catalog) (r : EntityRef) : Prop where
  /-- The catalog was made by declarations. -/
  declared : c.Declared
  /-- The type was described. -/
  described : ∃ d, c.describeRef r = .ok d
  /-- No two stored fields share a property. -/
  distinct : ((c.storedFields r).map Field.key).Nodup
  /-- No field that is not stored goes by the property of one that is. -/
  apart : ∀ f ∈ c.fieldsOf r, c.isStored f = false →
    ∀ g ∈ c.storedFields r, g.key ≠ f.key ∧ g.key ≠ f.name
  /-- A field that is not stored has a default. -/
  filled : ∀ f ∈ c.fieldsOf r, c.isStored f = false → f.default ≠ .required

/-- What is stored of an instance is read back: an instance that was made of a map with a value
for each stored field, and then assigned to, but not under some names, is stored as the values of
these fields under their properties, of which an instance of the same type with the same values is
made at any later time. -/
def RoundTrips (c : Catalog) (r : EntityRef) (excepted : List String) : Prop :=
  ∀ (d : Descriptor), c.describeRef r = .ok d →
  ∀ (now : Float) (entries : Entries) (made : Value), c.construct now r entries = .ok made →
    (∀ f ∈ c.storedFields r, (f.input? entries).isSome = true) →
  ∀ (assignments : List (Float × String × Value)) (entity : Value),
    (∀ a ∈ assignments, a.2.1 ∉ excepted) → c.assignAll made assignments = .ok entity →
  ∀ later : Float, ∃ again,
    c.mapNode later r (some (Value.ofNames (entity.storedValues d.persistableFields))) = .ok again ∧
      entity.entityType? = some (c.resolve r) ∧ again.entityType? = some (c.resolve r) ∧
      ∀ f ∈ c.storedFields r, again.attr? f.name = entity.attr? f.name

theorem Storable.nodup_keys (h : c.Storable r) (entity : Value) :
    (Assoc.keys ((c.storedFields r).map fun f => (f.key, entity.attr f.name))).Nodup := by
  rw [Assoc.keys, List.map_map]
  exact h.distinct

/-- What is stored of an instance are the values of its stored fields under their properties. -/
theorem Storable.storedValues_eq (h : c.Storable r) (hd : c.describeRef r = .ok d)
    (entity : Value) :
    entity.storedValues d.persistableFields =
      (c.storedFields r).map fun f => (f.key, entity.attr f.name) := by
  have each := congrArg (List.map fun p => (p.1, entity.attr p.2)) (persistableFields_eq hd)
  simp only [List.map_map, Function.comp_def] at each
  rw [Value.storedValues, Descriptor.persistableFields, List.filter_filter]
  simp only [Bool.and_self]
  rw [← Descriptor.persistableFields, each]
  exact Assoc.ofEntries_of_nodup (h.nodup_keys entity)

/-- Under the property of a stored field stands its value. -/
theorem Storable.lookup_key (h : c.Storable r) (hd : c.describeRef r = .ok d) (entity : Value)
    {f : Field} (hf : f ∈ c.storedFields r) :
    (Value.ofNames (entity.storedValues d.persistableFields)).lookup (.text f.key) =
      some (entity.attr f.name) := by
  rw [Value.lookup_ofNames, h.storedValues_eq hd]
  exact Assoc.lookup_of_mem (h.nodup_keys entity) (List.mem_map_of_mem hf)

/-- Under any other name stands nothing. -/
theorem Storable.lookup_eq_none (h : c.Storable r) (hd : c.describeRef r = .ok d)
    (entity : Value) {name : String} (other : ∀ f ∈ c.storedFields r, f.key ≠ name) :
    (Value.ofNames (entity.storedValues d.persistableFields)).lookup (.text name) = none := by
  rw [Value.lookup_ofNames, h.storedValues_eq hd, Assoc.lookup_eq_none_iff, Assoc.keys,
    List.map_map]
  intro mem
  obtain ⟨f, hf, same⟩ := List.mem_map.mp mem
  exact other f hf same

/-- A field with a default can be filled. -/
theorem exists_filled {f : Field} (h : f.default ≠ .required) (now : Float) :
    ∃ v, f.filled now = .ok v := by
  unfold Field.filled
  split
  · next required => exact absurd required h
  all_goals exact ⟨_, rfl⟩

/-- Under the empty name stands nothing. -/
theorem Storable.lookup_empty (h : c.Storable r) (hd : c.describeRef r = .ok d) (entity : Value) :
    (Value.ofNames (entity.storedValues d.persistableFields)).lookup (.text "") = none :=
  h.lookup_eq_none hd entity fun _ hf => key_ne_empty hf

/-- **A stored field is made again as what it holds**, if its type is stable. It finds its own
value, and the type gives this value again. -/
theorem Storable.made_again (h : c.Storable r) (hd : c.describeRef r = .ok d)
    {attributes : List (String × Value)} (holds : c.HoldsMade n r attributes) (later : Float)
    (depth : Value → Nat) {f : Field} (hf : f ∈ c.storedFields r) (stable : f.type.Stable) :
    ∃ a, f.made (c.readingAt later depth n) later (Value.ofNames
        ((Value.entity (c.resolve r) attributes).storedValues d.persistableFields)) = .ok a ∧
      attributes.lookup f.name = some a.value := by
  obtain ⟨now, depth', v, a, accepted, lookup⟩ := holds f hf
  have found := h.lookup_key hd (.entity (c.resolve r) attributes) hf
  rw [Value.attr, Value.attr?, lookup, Option.getD_some] at found
  obtain ⟨name, input⟩ := Field.exists_input? (h.lookup_empty hd _) found
  obtain ⟨a', accepted', same, -⟩ := stable.givesAgain_acceptWithin
    (c.recognises_readingAt now later depth' depth n) f.bounds v a accepted
  refine ⟨a', ?_, by rw [lookup, same]⟩
  rw [Field.made, input]
  exact under_eq_ok_iff.mpr accepted'

/-- **A field that is not stored finds nothing and is filled.** -/
theorem Storable.made_filled (h : c.Storable r) (hd : c.describeRef r = .ok d) (entity : Value)
    (asEntity : EntityRef → Value → Checked Accepted) (later : Float) {f : Field}
    (hf : f ∈ c.fieldsOf r) (other : c.isStored f = false) :
    ∃ a, f.made asEntity later
      (Value.ofNames (entity.storedValues d.persistableFields)) = .ok a := by
  have apart := h.apart f hf other
  have none := Field.input?_eq_none (h.lookup_empty hd entity)
    (h.lookup_eq_none hd entity fun g hg => (apart g hg).1)
    (h.lookup_eq_none hd entity fun g hg => (apart g hg).2)
  obtain ⟨v, filled⟩ := exists_filled (h.filled f hf other) later
  exact ⟨.exactly v, by rw [Field.made, none, filled]; rfl⟩

end Catalog

/-! ### Exams -/

namespace Example

/-- Exams have marks, of some type, and notes that are not stored. -/
def exam (marks : TypeExpr) : Declaration :=
  { name := "Exam"
    fields :=
      [{ name := "marks", type := marks },
       { name := "notes", type := .plain .anything, default := .value .null,
         marks := [.notMapped] }] }

/-- The catalog of exams with marks of a type. -/
def exams (marks : TypeExpr) : Catalog := ⟨[Catalog.declared {} baseFields (exam marks)]⟩

/-- The reference to the type of exams. -/
def examRef : EntityRef := .declared 0 "Exam"

/-- What is known of an exam with some marks. -/
def examWith (marks : Value) : Entries :=
  [(.text "Uuid", .text "u1"), (.text "CreatedAt", .float 0), (.text "UpdatedAt", .null),
    (.text "IsDeleted", .bool false), (.text "marks", marks)]

/-- An integer, a list of integers and texts, or a map from texts to floats. -/
def anyMarks : TypeExpr :=
  .union .wrapped
    [.plain .integer,
     .collection .list (.union .wrapped [.plain .integer, .plain .text]),
     .mapping .map (.plain .text) (.plain .float)]

/-- A list of integers, or of full marks and truth values. -/
def listedMarks : TypeExpr :=
  .union .wrapped
    [.collection .list (.plain .integer),
     .collection .list (.union .wrapped
       [.enumeration "Full" [("full", .text "5")], .plain .truth])]

/-- Marks to be gone through one by one. -/
def markStream : TypeExpr := .collection .iterable (.plain .integer)

/-- Whatever the marks of exams are here, exams can be stored. -/
theorem storable_exams :
    ∀ marks ∈ [anyMarks, listedMarks, markStream], (exams marks).Storable examRef := by
  have declared : ∀ marks ∈ [anyMarks, listedMarks, markStream], (exams marks).Declared := by
    simp only [List.forall_mem_cons]
    exact ⟨.declare (d := exam anyMarks) .nothing rfl,
      .declare (d := exam listedMarks) .nothing rfl,
      .declare (d := exam markStream) .nothing rfl, List.forall_mem_nil _⟩
  intro marks mem
  replace declared := declared marks mem
  simp only [List.mem_cons, List.not_mem_nil, or_false] at mem
  rcases mem with rfl | rfl | rfl <;>
    exact ⟨declared, ⟨_, rfl⟩, by decide, by decide, by decide⟩

/-- The marks of an exam are stored. -/
theorem marks_mem_storedFields : ∀ marks ∈ [anyMarks, listedMarks, markStream],
    { name := "marks", type := marks } ∈ (exams marks).storedFields examRef := by
  simp only [List.forall_mem_cons]
  refine ⟨?_, ?_, ?_, List.forall_mem_nil _⟩ <;>
    exact Catalog.mem_storedFields.mpr
      ⟨List.mem_append_right baseFields List.mem_cons_self, rfl⟩

theorem stable_anyMarks : anyMarks.Stable := by
  have item : (TypeExpr.union .wrapped [.plain .integer, .plain .text]).Steady true := by
    refine .union _ ?_
    simp only [List.forall_mem_cons]
    exact ⟨.plain rfl, .plain rfl, by simp⟩
  refine .steady (?_ : ∀ t ∈ _, TypeExpr.Steady true t)
  simp only [List.forall_mem_cons]
  exact ⟨.plain rfl, .collection rfl item, .mapping rfl _ rfl (.plain rfl), by simp⟩

/-- What every entity type starts with is stable. -/
theorem stable_of_mem_baseFields : ∀ f ∈ baseFields, f.type.Stable := by
  have optional (p : PlainType) (hp : p ≠ .null) :
      (TypeExpr.union .wrapped [.plain p, .plain .null]).Stable := by
    refine .optional _ ?_ ?_
    · cases p <;> first | exact absurd rfl hp | decide
    · simp only [List.forall_mem_cons]
      exact ⟨.plain _, .plain _, by simp⟩
  simp only [baseFields, List.forall_mem_cons]
  exact ⟨optional .text (by decide), .plain _, optional .float (by decide), .plain _, by simp⟩

theorem stable_of_mem_exams_anyMarks :
    ∀ f ∈ (exams anyMarks).storedFields examRef, f.type.Stable := by
  intro f hf
  have fields : (exams anyMarks).fieldsOf examRef = baseFields ++ (exam anyMarks).fields := rfl
  have mem := (Catalog.mem_storedFields.mp hf).1
  rw [fields] at mem
  rcases List.mem_append.mp mem with base | own
  · exact stable_of_mem_baseFields f base
  · rcases List.mem_pair.mp own with rfl | rfl
    · exact stable_anyMarks
    · exact .plain _

/-- If the marks of an exam are read back as others, exams do not come back. -/
theorem not_roundTrips_of_marks {marks : TypeExpr} {d : Descriptor} {made : Value}
    (given stored read : Value) (excepted : List String)
    (described : (exams marks).describeRef examRef = .ok d)
    (construct : (exams marks).construct 0 examRef (examWith given) = .ok made)
    (all : ∀ f ∈ (exams marks).storedFields examRef, (f.input? (examWith given)).isSome = true)
    (field : { name := "marks", type := marks } ∈ (exams marks).storedFields examRef)
    (holds : made.attr? "marks" = some stored)
    (reads : ((exams marks).mapNode 0 examRef
      (some (Value.ofNames (made.storedValues d.persistableFields)))).toOption.bind
        (·.attr? "marks") = some read)
    (other : read ≠ stored) : ¬(exams marks).RoundTrips examRef excepted := by
  intro roundTrips
  obtain ⟨again, mapped, -, -, same⟩ := roundTrips d described 0 _ made construct all [] made
    (List.forall_mem_nil _) rfl 0
  rw [mapped] at reads
  exact other (Option.some.inj (reads.symm.trans ((same _ field).trans holds)))

/-- What is known of an exam by the names of its attributes, with marks that are none. -/
def unmarked : Value :=
  .map [(.text "uuid", .text "u1"), (.text "created_at", .float 0), (.text "updated_at", .null),
    (.text "is_deleted", .bool false), (.text "marks", .text "none"), (.text "notes", .null)]

end Example

end GraphMapper
