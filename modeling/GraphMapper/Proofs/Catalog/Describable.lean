import GraphMapper.Proofs.Catalog.Growth

/-!
# Types that can be described

A type is described field by field, and the first thing that is wrong with it is reported. This
file says what has to be right. In the words of the declaration alone
(`GraphMapper.Catalog.WellConfigured`): its fields refer to declared types, its label is an
identifier, the properties of its stored fields are, and its relationship fields lead to declared
types. This is not enough, as a type cannot be used before all those that it leads to: what is asked
is that nothing is missing behind it either (`GraphMapper.Catalog.Accepts`). A type that is
described is accepted (`GraphMapper.Catalog.Ordered.accepts_of_describeRef`), and one that is
accepted is described, unless there are bounds that do not suit their fields
(`GraphMapper.Catalog.Ordered.exists_describeRef`).

What comes out lists the fields in their order (`GraphMapper.Catalog.Lists`), each with the part
that its marks give it (`GraphMapper.Catalog.Plays`): an edge among them comes first, and the first
edge before others.
-/

namespace GraphMapper

open Outcome

/-! ### Marks -/

namespace Field

variable {f : Field} {edge : Relationship}

/-- The first edge among the marks of a field is this one. -/
def Loads (f : Field) (edge : Relationship) : Prop :=
  ∃ before after, f.marks = before ++ .relationship edge :: after ∧
    ∀ e, .relationship e ∉ before

/-- There is no edge among the marks of a field. -/
def LoadsNothing (f : Field) : Prop := ∀ edge, .relationship edge ∉ f.marks

theorem relationship?_eq_some_iff : f.relationship? = some edge ↔ f.Loads edge := by
  unfold relationship? Loads
  rw [List.findSome?_eq_some_iff]
  constructor
  · rintro ⟨before, mark, after, marks, found, none⟩
    cases mark with
    | relationship e =>
      obtain rfl := Option.some.inj found
      exact ⟨before, after, marks, fun e he => nomatch none _ he⟩
    | _ => cases found
  · rintro ⟨before, after, marks, none⟩
    refine ⟨before, _, after, marks, rfl, fun mark hm => ?_⟩
    cases mark with
    | relationship e => exact absurd hm (none e)
    | _ => rfl

theorem relationship?_eq_none_iff : f.relationship? = none ↔ f.LoadsNothing := by
  unfold relationship?
  rw [List.findSome?_eq_none_iff]
  constructor
  · exact fun none edge marked => nomatch none _ marked
  · intro none mark hm
    cases mark with
    | relationship e => exact absurd hm (none e)
    | _ => rfl

theorem isNotMapped_iff : f.isNotMapped = true ↔ .notMapped ∈ f.marks := by
  unfold isNotMapped
  rw [List.any_eq_true]
  constructor
  · rintro ⟨mark, hm, marked⟩
    cases mark with
    | notMapped => exact hm
    | _ => cases marked
  · exact fun marked => ⟨_, marked, rfl⟩

end Field

/-- A text is an identifier if it is let through as one. -/
theorem Identifier.exists_require_text_iff {s kind : String} :
    (∃ i, require (.text s) kind = .ok i) ↔ isIdentifier s.toList = true := by
  constructor
  · rintro ⟨i, required⟩
    obtain rfl := Value.text.inj (require_eq_ok_iff.mp required)
    exact i.accepted
  · exact fun accepted => ⟨⟨s, accepted⟩, require_eq_ok_iff.mpr rfl⟩

namespace Catalog

variable {c : Catalog} {f : Field} {t : EntityType} {v : Value} {d : Descriptor}

/-! ### Fields -/

/-- The part that a field plays by its marks. -/
inductive Plays (c : Catalog) (f : Field) : Role → Prop where
  /-- The first edge is what the field is loaded through, stored or not. -/
  | relationship {edge : Relationship} {t : EntityType} {many : Bool} (loads : f.Loads edge)
    (there : t ∈ c.types) (leads : c.target f.type = ⟨some (.entity t.ref), many⟩) :
    Plays c f (.relationship edge t.ref many)
  /-- What has no edge is not stored if it is marked so. -/
  | notMapped (plain : f.LoadsNothing) (marked : .notMapped ∈ f.marks) : Plays c f .notMapped
  /-- What has no mark is stored. -/
  | scalar (plain : f.LoadsNothing) (unmarked : .notMapped ∉ f.marks) : Plays c f .scalar

/-- A field is listed under its name and its property, with the part that it plays. -/
structure Lists (c : Catalog) (f : Field) (listed : FieldDescriptor) : Prop where
  /-- The name is that of the attribute. -/
  name : listed.name = f.name
  /-- The property is the one that the field goes by. -/
  key : listed.key = f.key
  /-- It keeps its value if the field does. -/
  frozen : listed.frozen = f.frozen
  /-- The part is the one that the marks give it. -/
  role : c.Plays f listed.role

/-- What is asked of a field. -/
structure AcceptsField (c : Catalog) (f : Field) : Prop where
  /-- What is stored is stored under an identifier. -/
  key : f.LoadsNothing → .notMapped ∉ f.marks →
    ∃ key, Identifier.require (.text f.key) "property key" = .ok key
  /-- What has an edge leads to a declared type. -/
  leads : ∀ edge, .relationship edge ∈ f.marks →
    ∃ t ∈ c.types, (c.target f.type).type? = some (.entity t.ref)

/-- Where a field leads to a type with a number, this is one of the catalog. -/
theorem Ordered.exists_of_target (h : c.Ordered) (ht : t ∈ c.types) (hf : f ∈ t.fields)
    {number : Nat} {name : String} {many : Bool}
    (leads : c.target f.type = ⟨some (.entity (.declared number name)), many⟩) :
    ∃ u ∈ c.types, u.ref = .declared number name := by
  unfold target at leads
  split at leads
  · next q _ found =>
    split at leads
    · have same : c.resolve q = .declared number name := by simpa using (Target.mk.inj leads).1
      have refers : q ∈ f.type.references :=
        TypeExpr.mem_references_of_target f.type (by rw [found])
      have admitted := (h.admitted t ht q (List.mem_flatMap.mpr ⟨f, hf, refers⟩)).resolve
      rw [same] at admitted
      generalize named : EntityRef.declared number name = r at admitted
      cases admitted with
      | ref hu => exact ⟨_, hu, rfl⟩
      | _ => cases named
    · cases leads
  · next different => exact (different _ _ leads).elim

/-- **The part that a field is given is the one it plays**, and what is stored is stored under an
identifier. -/
theorem Ordered.roleOf_eq_ok_iff (h : c.Ordered) (ht : t ∈ c.types) (hf : f ∈ t.fields)
    {role : Role} : c.roleOf f = .ok role ↔
      c.Plays f role ∧ (role = .scalar → isIdentifier f.key.toList = true) := by
  unfold roleOf
  cases loads : f.relationship? with
  | some edge =>
    have first := Field.relationship?_eq_some_iff.mp loads
    dsimp only
    constructor
    · intro given
      split at given
      · next number name many leads =>
        obtain rfl := Except.ok.inj given
        obtain ⟨u, hu, ref⟩ := h.exists_of_target ht hf leads
        exact ⟨ref ▸ .relationship first hu (ref ▸ leads), nofun⟩
      · cases given
    · rintro ⟨plays, -⟩
      cases plays with
      | @relationship other u many loads' there leads =>
        obtain rfl :=
          Option.some.inj (loads.symm.trans (Field.relationship?_eq_some_iff.mpr loads'))
        rw [leads]
        rfl
      | notMapped plain | scalar plain =>
        rw [Field.relationship?_eq_none_iff.mpr plain] at loads
        cases loads
  | none =>
    have plain := Field.relationship?_eq_none_iff.mp loads
    dsimp only
    constructor
    · intro given
      split at given
      · next marked =>
        obtain rfl := Except.ok.inj given
        exact ⟨.notMapped plain (Field.isNotMapped_iff.mp marked), nofun⟩
      · next unmarked =>
        split at given
        · next identifier =>
          obtain rfl := Except.ok.inj given
          exact ⟨.scalar plain (mt Field.isNotMapped_iff.mpr unmarked), fun _ => identifier⟩
        · cases given
    · rintro ⟨plays, identifier⟩
      cases plays with
      | relationship loads' =>
        rw [Field.relationship?_eq_some_iff.mpr loads'] at loads
        cases loads
      | notMapped _ marked => exact if_pos (Field.isNotMapped_iff.mpr marked)
      | scalar _ unmarked =>
        rw [if_neg (mt Field.isNotMapped_iff.mp unmarked), if_pos (identifier rfl)]

/-- **A field can be described if it is accepted.** -/
theorem Ordered.exists_describeField_iff (h : c.Ordered) (ht : t ∈ c.types) (hf : f ∈ t.fields) :
    (∃ listed, c.describeField f = .ok listed) ↔ c.AcceptsField f := by
  have described : (∃ listed, c.describeField f = .ok listed) ↔ ∃ role, c.roleOf f = .ok role := by
    unfold describeField
    cases c.roleOf f <;> simp [Except.map]
  simp only [described, h.roleOf_eq_ok_iff ht hf]
  constructor
  · rintro ⟨role, plays, identifier⟩
    cases plays with
    | @relationship edge u many loads there leads =>
      obtain ⟨before, after, marks, -⟩ := loads
      have marked : Mark.relationship edge ∈ f.marks := by simp [marks]
      exact ⟨fun plain => absurd marked (plain edge), fun _ _ => ⟨u, there, by rw [leads]⟩⟩
    | notMapped plain marked =>
      exact ⟨fun _ unmarked => absurd marked unmarked, fun edge he => absurd he (plain edge)⟩
    | scalar plain =>
      exact ⟨fun _ _ => Identifier.exists_require_text_iff.mpr (identifier rfl),
        fun edge he => absurd he (plain edge)⟩
  · intro accepted
    cases loads : f.relationship? with
    | some edge =>
      have first := Field.relationship?_eq_some_iff.mp loads
      obtain ⟨before, after, marks, -⟩ := id first
      obtain ⟨u, hu, leads⟩ := accepted.leads edge (by simp [marks])
      have target : c.target f.type = ⟨some (.entity u.ref), (c.target f.type).many⟩ := by
        rw [← leads]
      exact ⟨_, .relationship first hu target, nofun⟩
    | none =>
      have plain := Field.relationship?_eq_none_iff.mp loads
      by_cases marked : Mark.notMapped ∈ f.marks
      · exact ⟨_, .notMapped plain marked, nofun⟩
      · exact ⟨_, .scalar plain marked, fun _ =>
          Identifier.exists_require_text_iff.mp (accepted.key plain marked)⟩

theorem Ordered.lists_of_describeField (h : c.Ordered) (ht : t ∈ c.types) (hf : f ∈ t.fields)
    {listed : FieldDescriptor} (described : c.describeField f = .ok listed) : c.Lists f listed := by
  obtain ⟨role, given, rfl⟩ := map_eq_ok.mp described
  exact ⟨rfl, rfl, rfl, ((h.roleOf_eq_ok_iff ht hf).mp given).1⟩

/-! ### Types -/

/-- What is asked of a type in the words of its declaration. -/
structure WellConfigured (c : Catalog) (t : EntityType) : Prop where
  /-- Its fields refer to what there is. -/
  known : ∀ f ∈ t.fields, ∀ q ∈ f.type.references, c.knows q = true
  /-- Its label is an identifier. -/
  label : ∃ label, Identifier.require t.label "label" = .ok label
  /-- Its fields are accepted. -/
  fields : ∀ f ∈ t.fields, c.AcceptsField f

/-- What is asked of a type: nothing that it leads to is missing either. -/
structure Accepts (c : Catalog) (t : EntityType) : Prop extends c.WellConfigured t where
  /-- All types that it leads to refer to what there is. -/
  complete : ∀ s, c.Reaches t.ref s → c.Resolved s

/-- A value is a type of the catalog. -/
def StandsFor (c : Catalog) (v : Value) (t : EntityType) : Prop :=
  ∃ q, v = .type (.entity q) ∧ c.find? q = some t

/-- A type behind which nothing is missing, but something has fields with bounds that do not suit
them. -/
structure Misfits (c : Catalog) (t : EntityType) : Prop where
  /-- All types that it leads to refer to what there is. -/
  complete : ∀ s, c.Reaches t.ref s → c.Resolved s
  /-- Among them is one with a field that its bounds do not suit. -/
  unsuited : ∃ s u, c.Reaches t.ref s ∧ c.find? s = some u ∧
    ∃ f ∈ u.fields, f.bounds.suit f.type = false

theorem exists_describeType_iff : (∃ d, c.describeType t = .ok d) ↔
    (∃ label, Identifier.require t.label "label" = .ok label) ∧
      ∀ f ∈ t.fields, ∃ listed, c.describeField f = .ok listed := by
  constructor
  · rintro ⟨d, described⟩
    refine ⟨⟨d.label, Identifier.require_eq_ok_iff.mpr (label_of_describeType described)⟩, ?_⟩
    have each := (mapM_eq_ok.mp (mapM_describeField described)).flip
    exact fun f hf => (exists_of_mem_right each hf).imp fun _ => And.right
  · rintro ⟨⟨label, required⟩, each⟩
    obtain ⟨listed, described⟩ := exists_forall₂ each
    have accepted : t.label.text?.bind Identifier.ofText? = some label := by
      rw [Identifier.require_eq_ok_iff.mp required]
      exact label.ofText?_text
    refine ⟨⟨label, listed⟩, ?_⟩
    unfold describeType
    rw [accepted, mapM_eq_ok.mpr described]
    rfl

/-- **A type is configured well if it refers to what there is and can be described as it is.** -/
theorem Ordered.wellConfigured_iff (h : c.Ordered) (ht : t ∈ c.types) : c.WellConfigured t ↔
    (∀ f ∈ t.fields, ∀ q ∈ f.type.references, c.knows q = true) ∧
      ∃ d, c.describeType t = .ok d := by
  have fields : (∀ f ∈ t.fields, ∃ listed, c.describeField f = .ok listed) ↔
      ∀ f ∈ t.fields, c.AcceptsField f :=
    forall₂_congr fun f hf => h.exists_describeField_iff ht hf
  rw [exists_describeType_iff, fields]
  exact ⟨fun ⟨known, label, accepted⟩ => ⟨known, label, accepted⟩,
    fun ⟨known, label, accepted⟩ => ⟨known, label, accepted⟩⟩

/-- **A type behind which nothing is missing** has bounds that do not suit if it is not suited. -/
theorem Ordered.misfits_iff (h : c.Ordered) (ht : t ∈ c.types)
    (complete : c.unresolved? t.ref = none) : c.Misfits t ↔ c.isSuited t.ref = false := by
  constructor
  · rintro ⟨-, s, u, reached, found, f, hf, unsuited⟩
    by_contra suited
    have suited := (h.isSuited_iff (.ref ht)).mp (Bool.not_eq_false _ ▸ suited) s reached u found
    have suited := List.all_eq_true.mp suited f hf
    rw [unsuited] at suited
    cases suited
  · intro unsuited
    refine ⟨(h.unresolved?_eq_none_iff (.ref ht)).mp complete, ?_⟩
    by_contra none
    refine Bool.eq_false_iff.mp unsuited
      ((h.isSuited_iff (.ref ht)).mpr fun s reached u found => List.all_eq_true.mpr fun f hf => ?_)
    by_contra unsuited
    exact none ⟨s, u, reached, found, f, hf, Bool.eq_false_iff.mpr unsuited⟩

/-- **A type that is described is accepted, and all its fields are listed.** -/
theorem Ordered.accepts_of_describeRef (h : c.Ordered) (ht : t ∈ c.types)
    (described : c.describeRef t.ref = .ok d) :
    c.Accepts t ∧ t.label = .text d.label.text ∧ List.Forall₂ c.Lists t.fields d.fields := by
  obtain ⟨-, -, complete, -, -⟩ := describeRef_eq_ok.mp described
  have complete := (h.unresolved?_eq_none_iff (.ref ht)).mp complete
  have known : ∀ f ∈ t.fields, ∀ q ∈ f.type.references, c.knows q = true := fun f hf q hq =>
    complete _ .itself t (h.find?_ref ht) q (List.mem_flatMap.mpr ⟨f, hf, hq⟩)
  have described := h.describeType_of_describeRef ht described
  refine ⟨⟨(h.wellConfigured_iff ht).mpr ⟨known, d, described⟩, complete⟩,
    label_of_describeType described, ?_⟩
  have each := mapM_eq_ok.mp (mapM_describeField described)
  exact ((List.forall₂_and_left _ _).mpr ⟨fun f hf => hf, each⟩).imp
    fun _ _ ⟨hf, described⟩ => h.lists_of_describeField ht hf described

/-- **A type that is accepted is described**, unless its bounds do not suit. -/
theorem Ordered.exists_describeRef (h : c.Ordered) (ht : t ∈ c.types) (accepted : c.Accepts t)
    (fits : ¬c.Misfits t) : ∃ d, c.describeRef t.ref = .ok d := by
  have complete := (h.unresolved?_eq_none_iff (.ref ht)).mpr accepted.complete
  have suited : c.isSuited t.ref = true := by
    rwa [h.misfits_iff ht complete, Bool.not_eq_false] at fits
  obtain ⟨-, d, described⟩ := (h.wellConfigured_iff ht).mp accepted.toWellConfigured
  exact ⟨d, describeRef_eq_ok.mpr ⟨t, h.find?_ref ht, complete, suited, described⟩⟩

/-- What is not described is complained about, unless it is the bounds that do not suit. -/
theorem configuration_of_describeRef {q : EntityRef} {e : Failure}
    (failed : c.describeRef q = .error e) : (∃ problem, e = .configuration q.name problem) ∨
      ∃ t, c.find? q = some t ∧ c.unresolved? q = none ∧ c.isSuited q = false := by
  unfold describeRef at failed
  cases found : c.find? q with
  | none =>
    rw [found] at failed
    exact .inl ⟨_, (Except.error.inj failed).symm⟩
  | some t =>
    cases complete : c.unresolved? q with
    | some missing =>
      rw [found, complete] at failed
      exact .inl ⟨_, (Except.error.inj failed).symm⟩
    | none =>
      cases suited : c.isSuited q with
      | false => exact .inr ⟨t, rfl, rfl, rfl⟩
      | true =>
        rw [found, complete, suited] at failed
        change (c.describeType t).mapError _ = _ at failed
        cases described : c.describeType t with
        | error problem =>
          rw [described] at failed
          exact .inl ⟨_, (Except.error.inj failed).symm⟩
        | ok d =>
          rw [described] at failed
          cases failed

end Catalog

/-- What is no entity type is complained about as that. -/
theorem Value.configuration_of_entityRef {v : Value} {e : Failure}
    (failed : v.entityRef = .error e) : ∃ name, e = .configuration name .notAnEntityType := by
  unfold entityRef at failed
  split at failed
  · cases failed
  · exact ⟨_, (Except.error.inj failed).symm⟩
  · exact ⟨_, (Except.error.inj failed).symm⟩

end GraphMapper
