import GraphMapper.Proofs.Catalog.Reach
import GraphMapper.Proofs.Descriptor

/-!
# Labels of declared types

A decoration gives a type another label, and changes nothing else about it. This file looks at
catalogs that differ in their labels only: one is the other **relabelled**
(`GraphMapper.Catalog.relabel`). What names and references lead to, what is unresolved and what is
suited is the same in both, and so is what comes of a declaration
(`GraphMapper.Catalog.declare_relabel`). All that is seen of the labels in the descriptor of a type
is the label of this one type (`GraphMapper.Catalog.describeRef_relabel`).

So a decoration, which is a relabelling of one type (`GraphMapper.Catalog.decorate_eq_relabel`),
shows in the descriptor of no other, whatever the two types have to do with each other.
-/

namespace GraphMapper

/-- A type with another label. -/
def EntityType.withLabel (label : Value) (t : EntityType) : EntityType := { t with label }

namespace Catalog

variable {c c' : Catalog} {f g : EntityType → Value} {r : EntityRef} {d : Declaration}

/-- A catalog with other labels. -/
def relabel (c : Catalog) (label : EntityType → Value) : Catalog :=
  ⟨c.types.map fun t => t.withLabel (label t)⟩

theorem relabel_relabel (c : Catalog) (f g : EntityType → Value) :
    (c.relabel f).relabel g = c.relabel fun t => g (t.withLabel (f t)) := by
  unfold relabel
  rw [List.map_map]
  rfl

theorem relabel_congr (h : ∀ t ∈ c.types, f t = g t) : c.relabel f = c.relabel g := by
  unfold relabel
  exact congrArg Catalog.mk (List.map_congr_left fun t ht => by rw [h t ht])

theorem relabel_label (c : Catalog) : c.relabel EntityType.label = c :=
  congrArg Catalog.mk (List.map_id _)

/-- **A decoration gives a label to one type.** -/
theorem decorate_eq_relabel (c : Catalog) (r : EntityRef) (label : Value) :
    c.decorate r label =
      c.relabel fun t => if t.ref = c.resolve r then (t.decorate label).label else t.label := by
  refine congrArg Catalog.mk (List.map_congr_left fun t _ => ?_)
  by_cases decorated : t.ref = c.resolve r
  · simp only [if_pos decorated]
    rfl
  · simp only [if_neg decorated]
    rfl

/-- What types have besides their labels. -/
theorem map_types_relabel {α : Type} {g : EntityType → α}
    (blind : ∀ t label, g (t.withLabel label) = g t) (c : Catalog) (f : EntityType → Value) :
    (c.relabel f).types.map g = c.types.map g := by
  rw [relabel, List.map_map]
  exact List.map_congr_left fun t _ => blind t (f t)

@[simp] theorem names_relabel (c : Catalog) (f : EntityType → Value) :
    (c.relabel f).types.map EntityType.name = c.types.map EntityType.name :=
  map_types_relabel (fun _ _ => rfl) c f

/-- An ordered catalog stays ordered, whatever the labels. -/
theorem Ordered.relabel (h : c.Ordered) (f : EntityType → Value) : (c.relabel f).Ordered := by
  have admits {q : EntityRef} (hq : c.Admits q) : (c.relabel f).Admits q := by
    rcases hq with _ | name | @⟨t, ht⟩
    · exact .base
    · exact .pending name
    · exact .ref (t := t.withLabel (f t)) (List.mem_map_of_mem ht)
  refine ⟨?_, ?_⟩
  · rw [map_types_relabel (fun _ _ => rfl), h.numbered, Catalog.relabel, List.length_map]
  · intro t ht q hq
    obtain ⟨u, hu, rfl⟩ := List.mem_map.mp ht
    exact admits (h.admitted u hu q hq)

/-- A sound catalog stays sound, whatever the labels. -/
theorem Sound.relabel (h : c.Sound) (f : EntityType → Value) : (c.relabel f).Sound := by
  obtain ⟨numbered, admitted⟩ := h.ordered.relabel f
  refine ⟨numbered, ?_, admitted⟩
  rw [names_relabel]
  exact h.distinct

/-- What is still to be declared cannot be decorated. -/
theorem decorate_of_not_knows (unknown : c.knows r = false) (label : Value) :
    c.decorate r label = c := by
  have other (t : EntityType) : t.ref ≠ c.resolve r := by
    intro same
    rw [knows, ← same] at unknown
    cases unknown
  rw [decorate_eq_relabel]
  simp only [if_neg (other _)]
  exact c.relabel_label

/-! ### What labels do not matter for -/

@[simp] theorem latest?_relabel (c : Catalog) (f : EntityType → Value) (name : String) :
    (c.relabel f).latest? name = (c.latest? name).map fun t => t.withLabel (f t) := by
  rw [latest?, relabel, ← List.map_reverse, List.find?_map]
  rfl

@[simp] theorem refer_relabel (c : Catalog) (f : EntityType → Value) :
    (c.relabel f).refer = c.refer := by
  funext name
  rw [refer, latest?_relabel, Option.map_map]
  rfl

@[simp] theorem resolve_relabel (c : Catalog) (f : EntityType → Value) (r : EntityRef) :
    (c.relabel f).resolve r = c.resolve r := by
  cases r with
  | pending name => exact congrFun (c.refer_relabel f) name
  | _ => rfl

@[simp] theorem knows_relabel (c : Catalog) (f : EntityType → Value) (r : EntityRef) :
    (c.relabel f).knows r = c.knows r := by
  rw [knows, resolve_relabel]
  rfl

@[simp] theorem find?_relabel (c : Catalog) (f : EntityType → Value) (r : EntityRef) :
    (c.relabel f).find? r = (c.find? r).map fun t => t.withLabel (f t) := by
  unfold find?
  rw [resolve_relabel]
  split
  · rw [relabel, List.find?_map]
    rfl
  · rfl

/-- The types found make the same references. -/
theorem references_find?_relabel (c : Catalog) (f : EntityType → Value) (r : EntityRef) :
    ((c.relabel f).find? r).map EntityType.references = (c.find? r).map EntityType.references := by
  rw [find?_relabel, Option.map_map]
  rfl

theorem walk_relabel (c : Catalog) (f : EntityType → Value) (n : Nat)
    (pending seen : List EntityRef) :
    (c.relabel f).walk n pending seen = c.walk n pending seen := by
  induction n generalizing pending seen with
  | zero => rfl
  | succ n ih =>
    rcases pending with _ | ⟨q, pending⟩
    · rfl
    rw [walk, walk]
    simp only [resolve_relabel, references_find?_relabel, ih]

theorem search?_relabel (c : Catalog) (f : EntityType → Value) (n : Nat)
    (pending seen : List EntityRef) :
    (c.relabel f).search? n pending seen = c.search? n pending seen := by
  induction n generalizing pending seen with
  | zero => rfl
  | succ n ih =>
    rcases pending with _ | ⟨q, pending⟩
    · rfl
    rw [search?, search?]
    simp only [resolve_relabel, find?_relabel, ih]
    cases c.find? (c.resolve q) with
    | none => rfl
    | some t =>
      simp only [Option.map_some, knows_relabel]
      rfl

theorem references_relabel (c : Catalog) (f : EntityType → Value) :
    (c.relabel f).references = c.references := by
  rw [references, relabel, List.foldr_map]
  rfl

@[simp] theorem unresolved?_relabel (c : Catalog) (f : EntityType → Value) (r : EntityRef) :
    (c.relabel f).unresolved? r = c.unresolved? r := by
  rw [unresolved?, search?_relabel, references_relabel]
  rfl

@[simp] theorem isSuited_relabel (c : Catalog) (f : EntityType → Value) (r : EntityRef) :
    (c.relabel f).isSuited r = c.isSuited r := by
  have suited (s : EntityRef) : ((c.relabel f).find? s).all EntityType.isSuited =
      (c.find? s).all EntityType.isSuited := by
    rw [find?_relabel]
    cases c.find? s <;> rfl
  simp only [isSuited, referencesFrom, references_relabel, walk_relabel, suited]

theorem parentFields_relabel (c : Catalog) (f : EntityType → Value) (d : Declaration) :
    (c.relabel f).parentFields d = c.parentFields d := by
  unfold parentFields
  split
  · rfl
  · next name _ =>
    rw [latest?_relabel]
    cases c.latest? name <;> rfl

theorem parentBases_relabel (c : Catalog) (f : EntityType → Value) (d : Declaration) :
    (c.relabel f).parentBases d = c.parentBases d := by
  unfold parentBases
  cases d.parent? with
  | none => rfl
  | some name =>
    rw [Option.bind_some, Option.bind_some, latest?_relabel]
    cases c.latest? name <;> rfl

theorem declared_relabel (c : Catalog) (f : EntityType → Value) (fields : List Field)
    (d : Declaration) : (c.relabel f).declared fields d = c.declared fields d := by
  unfold declared
  rw [parentBases_relabel, relabel, List.length_map]

/-- **What comes of a declaration does not depend on labels**, and changes none. -/
theorem declare_relabel (fresh : d.name ∉ c.types.map EntityType.name) :
    (c.relabel f).declare d = (c.declare d).map fun c' =>
      c'.relabel fun t => if t.name = d.name then t.label else f t := by
  have extended (fields : List Field) :
      (⟨(c.relabel f).types ++ [c.declared fields d]⟩ : Catalog) =
        (⟨c.types ++ [c.declared fields d]⟩ : Catalog).relabel
          fun t => if t.name = d.name then t.label else f t := by
    have others : c.relabel f = c.relabel fun t => if t.name = d.name then t.label else f t :=
      relabel_congr fun t ht => by
        have other : t.name ≠ d.name := fun same => fresh (same ▸ List.mem_map_of_mem ht)
        rw [if_neg other]
    rw [others]
    unfold relabel
    rw [List.map_append, List.map_singleton]
    simp only [if_pos (name_declared c fields d)]
    rfl
  unfold declare
  rw [parentFields_relabel]
  cases c.parentFields d with
  | error e => rfl
  | ok fields =>
    change (if _ then _ else _) = Except.map _ (if _ then _ else _)
    split
    · rfl
    · simp only [declared_relabel, extended, unresolved?_relabel, isSuited_relabel]
      split <;> rfl

/-! ### What the label of a type matters for -/

theorem describeField_relabel (c : Catalog) (f : EntityType → Value) (field : Field) :
    (c.relabel f).describeField field = c.describeField field := by
  have target : (c.relabel f).target field.type = c.target field.type := by
    unfold target
    simp only [knows_relabel, resolve_relabel]
  have role : (c.relabel f).roleOf field = c.roleOf field := by
    unfold roleOf
    rw [target]
  rw [describeField, role]
  rfl

theorem describeType_relabel (c : Catalog) (f : EntityType → Value) (t : EntityType) :
    (c.relabel f).describeType t = c.describeType t := by
  have fields : (c.relabel f).describeField = c.describeField := funext (c.describeField_relabel f)
  unfold describeType
  rw [fields]

/-- **The descriptor of a type depends on no label but its own.** -/
theorem describeRef_relabel (h : ∀ t, c.find? r = some t → f t = g t) :
    (c.relabel f).describeRef r = (c.relabel g).describeRef r := by
  unfold describeRef
  rw [find?_relabel, find?_relabel]
  cases found : c.find? r with
  | none => rfl
  | some t =>
    simp only [Option.map_some, unresolved?_relabel, isSuited_relabel, describeType_relabel,
      h t found]

/-- **A decoration changes the descriptor of no other type.** -/
theorem Ordered.describeRef_decorate (h : c.Ordered) {t : EntityType} (ht : t ∈ c.types)
    (other : t.ref ≠ c.resolve r) (label : Value) :
    (c.decorate r label).describeRef t.ref = c.describeRef t.ref := by
  have same : ∀ u, c.find? t.ref = some u →
      (if u.ref = c.resolve r then (u.decorate label).label else u.label) = u.label := by
    intro u found
    obtain rfl : t = u := Option.some.inj ((h.find?_ref ht).symm.trans found)
    rw [if_neg other]
  rw [decorate_eq_relabel, describeRef_relabel same]
  exact congrArg (describeRef · t.ref) c.relabel_label

end Catalog

end GraphMapper
