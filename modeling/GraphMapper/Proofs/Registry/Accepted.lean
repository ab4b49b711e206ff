import GraphMapper.Proofs.Catalog.Describable
import GraphMapper.Proofs.Registry.History
import GraphMapper.Proofs.Registry.Questions

/-!
# What a registry describes

Whatever it is given where a type is asked for, a registry either describes it, or complains about
a configuration. It describes what is accepted (`GraphMapper.Catalog.Accepts`), and this at the
time when the type is described first: what has been described is not looked at again, until it
is decorated (`GraphMapper.Registry.JudgedIn`). With types left aside that have bounds which do not
suit, these are the only two outcomes (`GraphMapper.Registry.Reached.describe_accepts`).

A type that is configured well by the words of its own declaration is not always accepted, as
there may be something missing behind it; and where bounds do not suit, and this comes to light
late, there is a third outcome (`GraphMapper.Registry.not_describe_wellConfigured`).
-/

namespace GraphMapper

open Outcome

namespace Catalog

variable {c : Catalog} {v : Value} {t : EntityType} {d : Descriptor} {e : Failure}

/-- A type is described as its value is. -/
theorem Ordered.describe_eq_ok_iff (h : c.Ordered) (held : c.Holds v) (stands : c.StandsFor v t) :
    c.describe v = .ok d ↔ c.describeRef t.ref = .ok d := by
  obtain ⟨q, rfl, found⟩ := stands
  rw [← h.resolve_eq_ref (held q rfl) found, describeRef_resolve_eq_ok]
  rfl

theorem StandsFor.mem_types (h : c.StandsFor v t) : t ∈ c.types := by
  obtain ⟨q, -, found⟩ := h
  exact mem_types_of_find? found

/-- What has a descriptor is a type. -/
theorem standsFor_of_describe (described : c.describe v = .ok d) : ∃ t, c.StandsFor v t := by
  obtain ⟨q, rfl, described⟩ := exists_of_describe described
  obtain ⟨t, found, -⟩ := describeType_of_describeRef described
  exact ⟨t, q, rfl, found⟩

/-- **What is described is an accepted type**, and all its fields are listed. -/
theorem Ordered.accepts_of_describe (h : c.Ordered) (held : c.Holds v)
    (described : c.describe v = .ok d) :
    ∃ t, c.StandsFor v t ∧ c.Accepts t ∧ t.label = .text d.label.text ∧
      List.Forall₂ c.Lists t.fields d.fields := by
  obtain ⟨t, stands⟩ := standsFor_of_describe described
  exact ⟨t, stands, h.accepts_of_describeRef stands.mem_types
    ((h.describe_eq_ok_iff held stands).mp described)⟩

/-- **What is not described is complained about**, unless its bounds do not suit. -/
theorem Ordered.configuration_of_describe (h : c.Ordered) (held : c.Holds v)
    (fits : ∀ t, c.StandsFor v t → ¬c.Misfits t) (failed : c.describe v = .error e) :
    ∃ name problem, e = .configuration name problem := by
  unfold describe at failed
  cases hv : v.entityRef with
  | error e' =>
    rw [hv] at failed
    obtain ⟨name, refused⟩ := Value.configuration_of_entityRef hv
    exact ⟨name, _, Except.error.inj failed ▸ refused⟩
  | ok q =>
    have value := Value.entityRef_eq_ok hv
    rw [hv] at failed
    rcases configuration_of_describeRef failed with
      ⟨problem, refused⟩ | ⟨t, found, complete, unsuited⟩
    · exact ⟨_, problem, refused⟩
    · -- Nothing is missing, so what is behind the reference is behind the type.
      have ref := h.resolve_eq_ref (held q value) found
      rw [← unresolved?_resolve, ref] at complete
      rw [← isSuited_resolve, ref] at unsuited
      exact absurd ((h.misfits_iff (mem_types_of_find? found) complete).mpr unsuited)
        (fits t ⟨q, value, found⟩)

/-- **What is accepted is described**, and what is described is accepted. -/
theorem Ordered.exists_describe_iff (h : c.Ordered) (held : c.Holds v)
    (fits : ∀ t, c.StandsFor v t → ¬c.Misfits t) :
    (∃ d, c.describe v = .ok d) ↔ ∃ t ∈ c.types, c.StandsFor v t ∧ c.Accepts t := by
  constructor
  · rintro ⟨d, described⟩
    obtain ⟨t, stands, accepted, -⟩ := h.accepts_of_describe held described
    exact ⟨t, stands.mem_types, stands, accepted⟩
  · rintro ⟨t, ht, stands, accepted⟩
    obtain ⟨d, described⟩ := h.exists_describeRef ht accepted (fits t stands)
    exact ⟨d, (h.describe_eq_ok_iff held stands).mpr described⟩

end Catalog

namespace Registry

variable {r s : Registry} {v : Value}

/-- A value is judged by what was there at some time before: by what is there now, unless it was
described before and some name has been declared again since. -/
structure JudgedIn (r : Registry) (v : Value) (s : Registry) : Prop where
  /-- A program could come there. -/
  reached : Reached s
  /-- It came before. -/
  leads : Leads s r
  /-- What was not described is judged now. -/
  first : r.kept? v = none → s = r
  /-- Where no name was declared again, nothing has changed. -/
  distinct : (r.catalog.types.map EntityType.name).Nodup → s = r

/-- The fields of a descriptor have different names, as those of its type do. -/
theorem nodup_names_of_lists {c : Catalog} {t : EntityType} (declared : c.Declared)
    (ht : t ∈ c.types) {d : Descriptor} (lists : List.Forall₂ c.Lists t.fields d.fields) :
    (d.fields.map FieldDescriptor.name).Nodup := by
  have names : t.fields.map Field.name = d.fields.map FieldDescriptor.name := by
    rw [← List.forall₂_eq_eq_eq, List.forall₂_map_left_iff, List.forall₂_map_right_iff]
    exact lists.imp fun _ _ listed => listed.name.symm
  exact names ▸ declared.nodup_names t ht

/-- Posts, whose authors are declared after them. -/
def posts : Registry := after [.declare post, .declare author] {}

/-- A type with a field of another type, and with fields that refer to none. -/
def referring (name field other : String) (more : List Field)
    (plain : ∀ f ∈ more, f.type.references = []) : Source where
  name := name
  read refer := .ok
    { name, fields := { name := field, type := .entity (refer other) } :: more }
  named refer d read := by
    rw [← Except.ok.inj read]
  refers refer d read f hf q hq := by
    rw [← Except.ok.inj read] at hf
    rcases List.mem_cons.mp hf with rfl | hf
    · exact ⟨other, List.mem_singleton.mp hq⟩
    · rw [plain f hf] at hq
      cases hq

/-- Blogs of posts, which have authors that are not declared. -/
def blogs : Registry :=
  after [.declare (referring "Post" "author" "Author" [] (by simp)),
    .declare (referring "Blog" "post" "Post" [] (by simp))] {}

/-- Drafts with a number of pages for which the bound is no integer, and with authors that are
declared later. -/
def drafts : Registry :=
  after [.declare (referring "Draft" "author" "Author"
      [{ name := "pages", type := .plain .integer, bounds := { least := some ⟨.float 1.5, rfl⟩ } }]
      (by simp [TypeExpr.references])),
    .declare author] {}

end Registry

end GraphMapper
