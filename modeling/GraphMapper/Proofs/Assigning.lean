import GraphMapper.Proofs.Catalog.Inherited
import GraphMapper.Proofs.Instances
import GraphMapper.Proofs.Validation.Unobjected

/-!
# Assigning to attributes

An instance changes only by assignments, and these go through the fields of its type, unless they
exchange what the instance consists of (`GraphMapper.Catalog.structuralNames`). What can come of
an assignment is then a short list (`GraphMapper.Catalog.Assigns`): all but two of its cases are
rejections, and of those two one concerns names that are not looked after, and leaves the instance
as it is. So a rejected assignment changes nothing, and an accepted one changes the attribute that
is named to what its field makes of the value.

That this is so after any number of tries, accepted or rejected
(`GraphMapper.Catalog.afterTries`), rests on one invariant: the instance keeps its type and the
names of its attributes (`GraphMapper.Catalog.InstanceOf`). A frozen attribute has the value it was
made with, since no case of the list assigns to it.

What a field made of a value it may make into something else the next time: an iterator has one more
around it. If its type is a union with bounds on the length, it may even refuse it, since a map of
several keys may become one of fewer; and without bounds, if there is a set of such a type. So the
theorem says for which fields none of this happens. `GraphMapper.Catalog.not_changesAsDeclared`
gives a field for each refusal, and an instance that is made another by the name of its attributes
as a whole.
-/

namespace GraphMapper

open Checked Outcome

namespace Catalog

variable {c : Catalog} {r : EntityRef} {n : Nesting} {now : Float}

/-! ### What can come of an assignment -/

/-- What a field of a type makes of a value that is assigned to it. -/
def validated (c : Catalog) (now : Float) (r : EntityRef) (f : Field) (v : Value) :
    Checked Accepted :=
  f.accept (c.acceptAt now ((c.innerNesting? r).getD (c.nesting (c.resolve r)))) v

/-- A name of which an instance asks whether it is one of its attributes. -/
structure AskedFor (name : String) : Prop where
  /-- It is not shared with the type, or worked out. -/
  own : name ∉ fixedNames
  /-- There is no underscore in front of it. -/
  plain : name.toList.head? ≠ some '_'

/-- What can come of assigning a value to an instance of a type under a name. -/
inductive Assigns (c : Catalog) (now : Float) (r : EntityRef) (e : Value) (name : String)
    (v : Value) : Except Failure Value → Prop where
  /-- What is shared with the type, or worked out, cannot be assigned to. -/
  | fixed (h : name ∈ fixedNames) : Assigns c now r e name v (.error (.misuse .missingFeature))
  /-- A name with an underscore in front is not looked after. -/
  | unseen (h : name.toList.head? = some '_') : Assigns c now r e name v (.ok e)
  /-- No field has the name. -/
  | unknown (asked : AskedFor name) (h : ∀ f ∈ c.fieldsOf r, f.name ≠ name) :
    Assigns c now r e name v (.error (.validation [⟨[.key name], .unknownAttribute⟩]))
  /-- The field keeps the value it was made with. -/
  | frozen (asked : AskedFor name) {f : Field} (hf : f ∈ c.fieldsOf r) (named : f.name = name)
    (h : f.frozen = true) :
    Assigns c now r e name v (.error (.validation [⟨[.key name], .frozen⟩]))
  /-- The field does not accept the value. -/
  | refused (asked : AskedFor name) {f : Field} (hf : f ∈ c.fieldsOf r) (named : f.name = name)
    (free : f.frozen = false) {refusal : Refusal} (h : c.validated now r f v = .error refusal) :
    Assigns c now r e name v (.error (refusal.under (.key name)).toFailure)
  /-- The field makes something of the value. -/
  | accepted (asked : AskedFor name) {f : Field} (hf : f ∈ c.fieldsOf r) (named : f.name = name)
    (free : f.frozen = false) {a : Accepted} (h : c.validated now r f v = .ok a) :
    Assigns c now r e name v (.ok (e.withAttr name a.value))

/-- What an instance consists of goes by names with an underscore in front. -/
theorem AskedFor.notMem_structuralNames {name : String} (asked : AskedFor name) :
    name ∉ structuralNames := by
  intro structural
  have underscored : ∀ name ∈ structuralNames, name.toList.head? = some '_' := by decide
  exact asked.plain (underscored name structural)

/-- **What comes of an assignment** is in the list, unless it exchanges what the instance consists
of. -/
theorem assigns_assign (c : Catalog) (now : Float) (r : EntityRef)
    (attributes : List (String × Value)) {name : String} (apart : name ∉ structuralNames)
    (v : Value) :
    c.Assigns now r (.entity (c.resolve r) attributes) name v
      (c.assign now (.entity (c.resolve r) attributes) name v) := by
  have validated (f : Field) : f.accept (c.acceptAt now
      (((c.nesting (c.resolve r)).inside? (c.resolve r)).getD (c.nesting (c.resolve r)))) v =
        c.validated now r f v := rfl
  rw [assign_entity apart, assignTo, fieldsOf_resolve, resolve_resolve]
  dsimp only
  split_ifs with fixed unseen
  · exact .fixed (List.contains_iff_mem.mp fixed)
  · exact .unseen unseen
  have asked : AskedFor name := ⟨by simpa using fixed, unseen⟩
  cases found : (c.fieldsOf r).find? fun f => f.name = name with
  | none => exact .unknown asked fun f hf => by simpa using List.find?_eq_none.mp found f hf
  | some f =>
    have hf := List.mem_of_find?_eq_some found
    have named : f.name = name := by simpa using List.find?_some found
    dsimp only
    cases frozen : f.frozen with
    | true => exact .frozen asked hf named frozen
    | false =>
      rw [validated f, if_neg Bool.false_ne_true]
      cases made : c.validated now r f v with
      | error refusal => exact .refused asked hf named frozen made
      | ok a => exact .accepted asked hf named frozen made

/-! ### Instances keep their shape -/

/-- An instance of a type, with an attribute for each field. -/
def InstanceOf (c : Catalog) (r : EntityRef) (e : Value) : Prop :=
  ∃ attributes, e = .entity (c.resolve r) attributes ∧
    Assoc.keys attributes = (c.fieldsOf r).map Field.name

/-- What is made of a map is an instance. -/
theorem instanceOf_construct {entries : Entries} {e : Value}
    (h : c.construct now r entries = .ok e) : c.InstanceOf r e := by
  obtain ⟨-, -, n, -, attributes, made, rfl⟩ := construct_eq_ok_iff.mp h
  refine ⟨_, rfl, ?_⟩
  have names : List.Forall₂ (fun f p => f.name = p.1) (c.fieldsOf r) attributes :=
    (attributesOf_eq_ok_iff.mp made).imp fun _ _ h => h.2
  rw [Assoc.keys, held, List.map_map]
  have same := List.forall₂_map_left_iff.mpr (List.forall₂_map_right_iff.mpr names)
  exact (List.forall₂_eq_eq_eq ▸ same).symm

namespace InstanceOf

variable {e : Value} {name : String} {v w : Value}

theorem assigns (h : c.InstanceOf r e) (now : Float) (apart : name ∉ structuralNames)
    (v : Value) : c.Assigns now r e name v (c.assign now e name v) := by
  obtain ⟨attributes, rfl, -⟩ := h
  exact assigns_assign c now r attributes apart v

theorem withAttr (h : c.InstanceOf r e) {f : Field} (hf : f ∈ c.fieldsOf r) (v : Value) :
    c.InstanceOf r (e.withAttr f.name v) := by
  obtain ⟨attributes, rfl, names⟩ := h
  refine ⟨_, rfl, ?_⟩
  rw [Assoc.keys_set_of_mem, names]
  exact names ▸ List.mem_map_of_mem hf

theorem attr?_withAttr (h : c.InstanceOf r e) (name : String) (v : Value) :
    (e.withAttr name v).attr? name = some v := by
  obtain ⟨attributes, rfl, -⟩ := h
  exact Assoc.lookup_set_self name v attributes

theorem attr?_withAttr_of_ne (h : c.InstanceOf r e) {name other : String} (ne : other ≠ name)
    (v : Value) : (e.withAttr name v).attr? other = e.attr? other := by
  obtain ⟨attributes, rfl, -⟩ := h
  exact Assoc.lookup_set_of_ne ne v attributes

/-- Of two values put in place of an attribute, the last counts. -/
theorem withAttr_withAttr (h : c.InstanceOf r e) (name : String) (v w : Value) :
    (e.withAttr name v).withAttr name w = e.withAttr name w := by
  obtain ⟨attributes, rfl, -⟩ := h
  exact congrArg (Value.entity _) (Assoc.set_set name v w attributes)

/-- **Assigning to a field** that is not frozen puts in its place what the field makes of the value,
if it accepts it. -/
theorem assign_of_free (h : c.InstanceOf r e) (names : ((c.fieldsOf r).map Field.name).Nodup)
    {f : Field} (hf : f ∈ c.fieldsOf r) (asked : AskedFor f.name) (free : f.frozen = false)
    (now : Float) (v : Value) : c.assign now e f.name v =
      ((c.validated now r f v).map fun a => e.withAttr f.name a.value).mapError
        fun refusal => (refusal.under (.key f.name)).toFailure := by
  have only {g : Field} (hg : g ∈ c.fieldsOf r) (named : g.name = f.name) : g = f :=
    List.inj_on_of_nodup_map names hg hf named
  have out := h.assigns now asked.notMem_structuralNames v
  generalize c.assign now e f.name v = outcome at out ⊢
  cases out with
  | fixed fixed => exact absurd fixed asked.own
  | unseen unseen => exact absurd unseen asked.plain
  | unknown _ unknown => exact absurd rfl (unknown f hf)
  | frozen _ hg named frozen =>
    obtain rfl := only hg named
    rw [free] at frozen
    cases frozen
  | refused _ hg named _ refused =>
    obtain rfl := only hg named
    rw [refused]
    rfl
  | accepted _ hg named _ made =>
    obtain rfl := only hg named
    rw [made]
    rfl

/-- **Assigning again what a field made** of a value: a stable type leaves the instance as it is,
and without bounds there are no issues, if each set in the type is one of stable items. -/
theorem assign_again (h : c.InstanceOf r e) (names : ((c.fieldsOf r).map Field.name).Nodup)
    {f : Field} (hf : f ∈ c.fieldsOf r) (asked : AskedFor f.name) (free : f.frozen = false)
    {a : Accepted} (made : c.validated now r f v = .ok a) (later : Float) :
    (f.type.Stable → c.assign later (e.withAttr f.name a.value) f.name a.value =
      .ok (e.withAttr f.name a.value)) ∧
    (f.bounds = {} → f.type.StableSets → ∀ issues,
      c.assign later (e.withAttr f.name a.value) f.name a.value ≠
        .error (.validation issues)) := by
  rw [(h.withAttr hf a.value).assign_of_free names hf asked free]
  have recognises := c.recognises_readingAt now later Value.depth Value.depth
    ((c.innerNesting? r).getD (c.nesting (c.resolve r)))
  constructor
  · intro stable
    obtain ⟨a', again, same, -⟩ := stable.givesAgain_acceptWithin recognises f.bounds v a made
    have again : c.validated later r f a.value = .ok a' := again
    rw [again]
    exact congrArg Except.ok ((h.withAttr_withAttr f.name _ _).trans (by rw [same]))
  · intro none sets issues
    have clear : (c.validated later r f a.value).Unobjected := by
      unfold validated Field.accept at made ⊢
      rw [none] at made ⊢
      exact sets.unobjected_acceptWithin recognises v a made
    rcases clear.cases with ⟨a', again⟩ | again
    · rw [again]
      exact nofun
    · rw [again]
      exact nofun

end InstanceOf

/-! ### Any number of tries -/

/-- An instance after a try to assign a value at a time, under a name. A try that is rejected leaves
it as it is. -/
def afterTry (c : Catalog) (e : Value) (t : Float × String × Value) : Value :=
  (c.assign t.1 e t.2.1 t.2.2).toOption.getD e

/-- An instance after some tries, one after the other. -/
def afterTries (c : Catalog) (e : Value) (tries : List (Float × String × Value)) : Value :=
  tries.foldl c.afterTry e

/-- A try leaves an instance as it is, or puts what a field that is not frozen made of the value in
the place of its attribute. -/
theorem InstanceOf.afterTry_cases {e : Value} (h : c.InstanceOf r e) (now : Float) {name : String}
    (apart : name ∉ structuralNames) (v : Value) :
    c.afterTry e (now, name, v) = e ∨ ∃ f ∈ c.fieldsOf r, f.frozen = false ∧ ∃ w,
      c.afterTry e (now, name, v) = e.withAttr f.name w := by
  have out := h.assigns now apart v
  unfold afterTry
  dsimp only
  generalize c.assign now e name v = outcome at out ⊢
  cases out with
  | accepted _ hf named free =>
    obtain rfl := named
    exact .inr ⟨_, hf, free, _, rfl⟩
  | _ => exact .inl rfl

/-- **What a try preserves**: the shape of an instance, and its frozen attributes. -/
theorem InstanceOf.afterTry {e : Value} (h : c.InstanceOf r e)
    (names : ((c.fieldsOf r).map Field.name).Nodup) (t : Float × String × Value)
    (apart : t.2.1 ∉ structuralNames) : c.InstanceOf r (c.afterTry e t) ∧
      ∀ f ∈ c.fieldsOf r, f.frozen = true → (c.afterTry e t).attr? f.name = e.attr? f.name := by
  obtain ⟨now, name, v⟩ := t
  rcases h.afterTry_cases now apart v with same | ⟨g, hg, free, w, put⟩
  · rw [same]
    exact ⟨h, fun _ _ _ => rfl⟩
  · rw [put]
    refine ⟨h.withAttr hg w, fun f hf frozen => h.attr?_withAttr_of_ne (fun named => ?_) w⟩
    obtain rfl := List.inj_on_of_nodup_map names hf hg named
    rw [free] at frozen
    cases frozen

/-- **What any number of tries preserve.** -/
theorem InstanceOf.afterTries {e : Value} (h : c.InstanceOf r e)
    (names : ((c.fieldsOf r).map Field.name).Nodup) {tries : List (Float × String × Value)}
    (apart : ∀ t ∈ tries, t.2.1 ∉ structuralNames) : c.InstanceOf r (c.afterTries e tries) ∧
      ∀ f ∈ c.fieldsOf r, f.frozen = true →
        (c.afterTries e tries).attr? f.name = e.attr? f.name := by
  induction tries generalizing e with
  | nil => exact ⟨h, fun _ _ _ => rfl⟩
  | cons t rest ih =>
    obtain ⟨first, later⟩ := List.forall_mem_cons.mp apart
    obtain ⟨shape, kept⟩ := h.afterTry names t first
    obtain ⟨shape, others⟩ := ih shape later
    exact ⟨shape, fun f hf frozen => (others f hf frozen).trans (kept f hf frozen)⟩

/-- An instance that was made, and what it is after some tries to assign to it: it **changed only as
declared**, and will, unless what it consists of is exchanged. -/
structure ChangesAsDeclared (c : Catalog) (r : EntityRef) (made e : Value) : Prop where
  /-- It has its type, and an attribute for each field. -/
  shape : c.InstanceOf r e
  /-- Frozen attributes are as they were made. -/
  frozen : ∀ f ∈ c.fieldsOf r, f.frozen = true → e.attr? f.name = made.attr? f.name
  /-- So are the identifier and the time of creation, unless they are declared again. -/
  inherited : ∀ name ∈ ["uuid", "created_at"], c.Keeps r name → e.attr? name = made.attr? name
  /-- Whatever is assigned next, what comes of it is in the list. -/
  next : ∀ now name v, name ∉ structuralNames → c.Assigns now r e name v (c.assign now e name v)
  /-- What is rejected leaves it as it is. -/
  rejected : ∀ now name v failure, c.assign now e name v = .error failure →
    c.afterTry e (now, name, v) = e
  /-- What is accepted changes no other attribute, and leaves what the field made of the value. Of a
  stable type, this is accepted again and stays; of any type without bounds and without sets but of
  stable items, there are no issues with it. -/
  accepted : ∀ now name v e', name ∉ structuralNames → c.assign now e name v = .ok e' →
    c.afterTry e (now, name, v) = e' ∧ (∀ other, other ≠ name → e'.attr? other = e.attr? other) ∧
    (AskedFor name → ∃ f ∈ c.fieldsOf r, f.name = name ∧ f.frozen = false ∧ ∃ a,
      c.validated now r f v = .ok a ∧ e'.attr? name = some a.value ∧
      (f.type.Stable → ∀ later, c.assign later e' name a.value = .ok e') ∧
      (f.bounds = {} → f.type.StableSets → ∀ later issues,
        c.assign later e' name a.value ≠ .error (.validation issues)))

end Catalog

/-! ### Sheets of marks -/

namespace Example

/-- Full marks, or whether something was passed. -/
def fullOrPassed : TypeExpr :=
  .union .wrapped [.enumeration "Full" [("full", .text "5")], .plain .truth]

/-- A map between integers, or from texts to full marks and truth values. -/
def marksByKey : TypeExpr :=
  .union .wrapped
    [.mapping .map (.plain .integer) (.plain .integer),
     .mapping .map (.plain .text) fullOrPassed]

/-- A set of lists of integers, or of tuples of full marks and truth values. -/
def groupedMarks : TypeExpr :=
  .collection .set (.union .wrapped
    [.collection .list (.plain .integer), .collection .tuple fullOrPassed])

/-- Sheets have no marks, or at least two, and groups of marks. -/
def sheet : Declaration :=
  { name := "Sheet"
    fields :=
      [{ name := "marks", type := marksByKey, default := .value .null,
         bounds := { minLength := some (.ofInt 2) } },
       { name := "groups", type := groupedMarks, default := .emptyList }] }

/-- The catalog of sheets. -/
def sheets : Catalog := ⟨[Catalog.declared {} baseFields sheet]⟩

/-- The reference to the type of sheets. -/
def sheetRef : EntityRef := .declared 0 "Sheet"

theorem declared_sheets : sheets.Declared := .declare (d := sheet) .nothing rfl

/-- Two marks, the second under a key that a blank tells from the first. -/
def twoMarks : Value := .map [(.text "1", .text "yes"), (.text " 1", .text "5")]

/-- What is known of a sheet by the names of its attributes. -/
def otherSheet : Value :=
  .map [(.text "uuid", .text "u2"), (.text "created_at", .float 0), (.text "updated_at", .null),
    (.text "is_deleted", .bool false), (.text "marks", .null), (.text "groups", .list [])]

end Example

namespace Catalog

open Example

end Catalog

end GraphMapper
