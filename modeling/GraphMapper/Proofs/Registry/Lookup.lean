import GraphMapper.Proofs.Equality
import GraphMapper.Proofs.Registry.History
import GraphMapper.Proofs.Registry.Questions

/-!
# Types and their labels

A type is found by its label, which is looked up among the types themselves; and a type is
described with a label, which comes from a descriptor that may have been kept for long. The two
agree wherever a program may come to, as long as no two types have the same label
(`GraphMapper.Registry.Reached.lookup_agrees`): a descriptor that is kept has the label that its
type has now (`GraphMapper.Registry.WorkedOut.label`), as a decoration drops the one and changes
the other, for this type and for no other.
-/

namespace GraphMapper

namespace Catalog

variable {c : Catalog} {t : EntityType} {label : Value}

theorem mem_types_of_mem_registered (ht : t ∈ c.registered) : t ∈ c.types :=
  (List.mem_filter.mp ht).1

/-- What is found by a label has it. -/
theorem label_of_findByLabel? (found : c.findByLabel? label = some t) :
    t ∈ c.registered ∧ (t.label == label) = true := by
  have same := List.find?_some found
  exact ⟨List.mem_of_find?_eq_some found, same⟩

end Catalog

namespace Registry

variable {r : Registry} {t u : EntityType} {d : Descriptor}

/-- What a registry says of one of its types. -/
def describeType (r : Registry) (t : EntityType) : Except Failure Descriptor :=
  (r.describe (.type (.entity t.ref))).1

/-- A label that a type has, or had before. -/
def Wore (r : Registry) (t : EntityType) (label : Value) : Prop :=
  ∃ s, Reached s ∧ Leads s r ∧ ∃ u ∈ s.catalog.types, u.ref = t.ref ∧ u.label = label

/-- No two of the types that can be found have the same label. -/
def Labelled (r : Registry) : Prop :=
  ∀ t ∈ r.catalog.registered, ∀ u ∈ r.catalog.registered, t ≠ u → (t.label == u.label) = false

theorem Labelled.eq_of_label (h : r.Labelled) (ht : t ∈ r.catalog.registered)
    (hu : u ∈ r.catalog.registered) {label : String} (own : t.label = .text label)
    (same : u.label = .text label) : t = u := by
  by_contra other
  have differ := h t ht u hu other
  rw [own, same, Value.text_beq_self] at differ
  cases differ

/-- A type that is described is described with the label that it has. -/
theorem Reached.label_of_describeType (reached : Reached r) (ht : t ∈ r.catalog.types)
    (described : r.describeType t = .ok d) : t.label = .text d.label.text := by
  obtain ⟨q, u, s, same, found, worked⟩ :=
    reached.exists_workedOut (Catalog.holds_ref ht) described
  obtain rfl : t.ref = q := by simpa using same
  rw [reached.orderly.ordered.find?_ref ht] at found
  obtain rfl := Option.some.inj found
  exact worked.label

/-- The only type with a label is found by it. -/
theorem Labelled.findByLabel? (h : r.Labelled) (ht : t ∈ r.catalog.registered) {label : String}
    (own : t.label = .text label) : r.catalog.findByLabel? (.text label) = some t := by
  have some : (r.catalog.findByLabel? (.text label)).isSome = true :=
    List.find?_isSome.mpr ⟨t, ht, by rw [own, Value.text_beq_self]⟩
  obtain ⟨u, found⟩ := Option.isSome_iff_exists.mp some
  obtain ⟨hu, same⟩ := Catalog.label_of_findByLabel? found
  rw [found, h.eq_of_label ht hu own (Value.eq_text_of_beq same)]

/-- **Labels that types are found by are labels that they are described with.** Where a program has
come to, and no two types have the same label: a type that is described is found by the label that
it is described with; a type that is found by a label and is described, is described with this
label; and no type is found any more by a label that it had before and has no more. -/
theorem Reached.lookup_agrees (reached : Reached r) (labelled : r.Labelled) :
    (∀ t ∈ r.catalog.registered, ∀ d, r.describeType t = .ok d →
      r.catalog.findByLabel? (.text d.label.text) = some t) ∧
    (∀ label t d, r.catalog.findByLabel? label = some t → r.describeType t = .ok d →
      label = .text d.label.text) ∧
    ∀ t label, r.Wore t label → (t.label == label) = false →
      r.catalog.findByLabel? label ≠ some t := by
  refine ⟨fun t ht d described => ?_, fun label t d found described => ?_,
    fun t label _ differ found => ?_⟩
  · have own := reached.label_of_describeType (Catalog.mem_types_of_mem_registered ht) described
    exact labelled.findByLabel? ht own
  · obtain ⟨ht, same⟩ := Catalog.label_of_findByLabel? found
    rw [reached.label_of_describeType (Catalog.mem_types_of_mem_registered ht) described] at same
    exact Value.eq_text_of_text_beq same
  · obtain ⟨-, same⟩ := Catalog.label_of_findByLabel? found
    rw [differ] at same
    cases same

/-! ### Authors that are writers -/

/-- Authors, as they are declared. -/
def authors : Registry := after [.declare author] {}

/-- Authors, once they have been described and then decorated as writers. -/
def writers : Registry :=
  after [.describe (.named "Author"), .decorate (.named "Author") (.text "Writer")] authors

/-- Authors that were described and are writers now are found as writers, and as authors no more. -/
theorem lookup_agrees_writers : ∃ t d, writers.describeType t = .ok d ∧ d.label.text = "Writer" ∧
    writers.catalog.findByLabel? (.text "Writer") = some t ∧ writers.Wore t (.text "Author") ∧
    writers.catalog.findByLabel? (.text "Author") ≠ some t := by
  have reached : Reached authors := leads_after _ _
  have leads : Leads authors writers := leads_after _ _
  let t : EntityType :=
    { number := 0, name := "Author", label := .text "Writer", fields := baseFields }
  have only : ∀ u ∈ writers.catalog.registered, u = t := fun u hu => List.mem_singleton.mp hu
  have labelled : writers.Labelled := fun u hu v hv other =>
    absurd ((only u hu).trans (only v hv).symm) other
  obtain ⟨finds, -, lost⟩ := Reached.lookup_agrees (reached.trans leads) labelled
  obtain ⟨d, described, label⟩ : ∃ d, writers.describeType t = .ok d ∧ d.label.text = "Writer" :=
    ⟨_, rfl, rfl⟩
  have found := finds t (List.mem_singleton_self _) d described
  rw [label] at found
  have wore : writers.Wore t (.text "Author") :=
    ⟨authors, reached, leads, _, List.mem_singleton_self _, rfl, rfl⟩
  exact ⟨t, d, described, label, found, wore, lost _ _ wore rfl⟩

end Registry

end GraphMapper
