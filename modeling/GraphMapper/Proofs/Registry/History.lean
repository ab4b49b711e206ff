import GraphMapper.Proofs.Registry.Faithful
import Mathlib.Logic.Relation

/-!
# Histories of a registry

A program declares types, decorates them and asks for descriptors, in any order and as often as it
likes, and nothing keeps it from using a name twice. Every such use is a **move**
(`GraphMapper.Registry.Moves`), and what can be reached by moves from a registry that is new is what
a program can meet (`GraphMapper.Registry.Reached`).

Names may come twice, so that a name does not say which type is meant. But the types are still told
apart by their numbers, and this is enough for what a registry has to keep straight
(`GraphMapper.Registry.Orderly`): what is kept describes a type that is there, under the label that
the type has now, and as it was worked out at some time in between
(`GraphMapper.Registry.WorkedOut`). Where names are different as well, it is what would be worked
out now (`GraphMapper.Registry.Reached.faithful`).
-/

namespace GraphMapper

open Outcome

namespace Registry

variable {r r' s : Registry} {v : Value}

/-! ### Moves -/

/-- One use of a registry. -/
inductive Moves : Registry → Registry → Prop
  /-- A type is declared, as a source has it. -/
  | declare {r r' : Registry} (source : Source)
    (made : source.read r.catalog.refer >>= r.declare = .ok r') : Moves r r'
  /-- A type is decorated. -/
  | decorate {r r' : Registry} {type label : Value} (held : r.catalog.Holds type)
    (made : r.decorate type label = .ok r') : Moves r r'
  /-- A type is described. -/
  | describe {r : Registry} {type : Value} (held : r.catalog.Holds type) :
    Moves r (r.describe type).2

/-- Registries that a program can come to from another. -/
def Leads : Registry → Registry → Prop := Relation.ReflTransGen Moves

/-- Registries that a program can come to. -/
def Reached (r : Registry) : Prop := Leads {} r

/-- **What a question does**: the catalog stays, and if anything is kept that was not, it is the
descriptor of a type that was asked for. -/
theorem describe_cases (r : Registry) (v : Value) :
    (r.describe v).2 = r ∨ ∃ q d, v = .type (.entity q) ∧ r.kept? v = none ∧
      r.catalog.describeRef q = .ok d ∧
      (r.describe v).2 = { r with described := (r.catalog.resolve q, d) :: r.described } := by
  unfold Registry.describe
  cases hk : r.kept? v with
  | some d => exact .inl rfl
  | none =>
    cases described : r.catalog.describe v with
    | error e => exact .inl rfl
    | ok d =>
      obtain ⟨q, rfl, described⟩ := Catalog.exists_of_describe described
      exact .inr ⟨q, d, rfl, rfl, described, rfl⟩

theorem catalog_describe (r : Registry) (v : Value) : (r.describe v).2.catalog = r.catalog := by
  rcases r.describe_cases v with same | ⟨q, d, -, -, -, kept⟩
  · rw [same]
  · rw [kept]

/-- **What a decoration does**: a type gets another label, and loses its descriptor. -/
theorem decorate_eq_ok {label : Value} (made : r.decorate v label = .ok r') :
    ∃ q, v = .type (.entity q) ∧ r'.catalog = r.catalog.decorate q label ∧
      r'.described = r.described.filter (·.1 ≠ r.catalog.resolve q) := by
  unfold Registry.decorate at made
  split at made
  · next q =>
    split at made
    · obtain rfl := Except.ok.inj made
      exact ⟨q, rfl, rfl, rfl⟩
    · cases made
  · cases made

/-- **What a declaration does**: a type comes behind the others. -/
theorem declare_eq_ok {source : Source}
    (made : source.read r.catalog.refer >>= r.declare = .ok r') :
    ∃ d, r.catalog.Reads d ∧ r.catalog.declare d = .ok r'.catalog ∧
      r'.described = r.described := by
  obtain ⟨d, read, made⟩ := bind_eq_ok.mp made
  obtain ⟨c, declared, rfl⟩ := map_eq_ok.mp made
  exact ⟨d, source.refers _ _ read, declared, rfl⟩

/-- A step is a move, or leaves the registry as it was. -/
theorem leads_step (r : Registry) (s : Step) : Leads r (r.step s).2 := by
  cases s with
  | declare source =>
    rw [step]
    cases made : source.read r.catalog.refer >>= r.declare with
    | ok r' => exact .single (.declare source made)
    | error e => exact .refl
  | decorate type label =>
    rw [step]
    cases made : r.decorate (type.value r.catalog) label with
    | ok r' => exact .single (.decorate (type.holds r.catalog) made)
    | error e => exact .refl
  | describe type | labelOf type => exact .single (.describe (type.holds r.catalog))
  | findByLabel label => exact .refl
  | names => exact .refl

/-- **A row of steps leads to registries that a program can come to.** -/
theorem leads_after (steps : List Step) (r : Registry) : Leads r (after steps r) := by
  induction steps generalizing r with
  | nil => exact .refl
  | cons s rest ih => exact (r.leads_step s).trans (ih _)

/-! ### Order -/

/-- What is kept is the descriptor of a type that is there, as it was worked out in a registry on
the way. -/
structure WorkedOut (r : Registry) (t : EntityType) (d : Descriptor) (s : Registry) : Prop where
  /-- The registry that it was worked out in. -/
  reached : Reached s
  /-- It came before. -/
  leads : Leads s r
  /-- The type was there. -/
  there : t ∈ s.catalog.types
  /-- The descriptor is the one that was worked out. -/
  described : s.catalog.describeRef t.ref = .ok d

/-- A registry in which types are told apart by their numbers, and in which what is kept was worked
out for types as they are now. -/
structure Orderly (r : Registry) : Prop where
  /-- The types were declared and decorated. -/
  declared : r.catalog.Declared
  /-- Numbers tell them apart. -/
  ordered : r.catalog.Ordered
  /-- What is kept was worked out for a type that is there. -/
  kept : ∀ e ∈ r.described, ∃ t ∈ r.catalog.types, e.1 = t.ref ∧ ∃ s, r.WorkedOut t e.2 s

theorem WorkedOut.move {t : EntityType} {d : Descriptor} (h : r.WorkedOut t d s)
    (move : Moves r r') : r'.WorkedOut t d s :=
  ⟨h.reached, h.leads.tail move, h.there, h.described⟩

/-- **Every move keeps order.** -/
theorem Orderly.move (h : r.Orderly) (reached : Reached r) (move : Moves r r') : r'.Orderly := by
  have passed := move
  cases move with
  | declare source made =>
    obtain ⟨d, reads, declared, same⟩ := declare_eq_ok made
    obtain ⟨fields, -, types⟩ := Catalog.types_of_declare declared
    refine ⟨.declare h.declared declared, h.ordered.declare reads declared, fun e he => ?_⟩
    obtain ⟨t, ht, ref, s, worked⟩ := h.kept e (same ▸ he)
    exact ⟨t, types ▸ List.mem_append_left _ ht, ref, s, worked.move passed⟩
  | @decorate _ type label held made =>
    obtain ⟨q, rfl, catalog, dropped⟩ := decorate_eq_ok made
    refine ⟨catalog ▸ .decorate h.declared q label, ?_, fun e he => ?_⟩
    · rw [catalog, Catalog.decorate_eq_relabel]
      exact h.ordered.relabel _
    · -- What is left is kept for other types, and these are as they were.
      rw [dropped] at he
      obtain ⟨he, other⟩ := List.mem_filter.mp he
      obtain ⟨t, ht, ref, s, worked⟩ := h.kept e he
      have apart : t.ref ≠ r.catalog.resolve q := ref ▸ of_decide_eq_true other
      refine ⟨t, ?_, ref, s, worked.move passed⟩
      rw [catalog]
      exact List.mem_map.mpr ⟨t, ht, if_neg apart⟩
  | @describe type held =>
    rcases r.describe_cases type with same | ⟨q, d, rfl, -, described, kept⟩
    · rwa [same]
    · rw [kept] at passed ⊢
      refine ⟨h.declared, h.ordered, List.forall_mem_cons.mpr ⟨?_, fun e he => ?_⟩⟩
      · obtain ⟨t, found, -⟩ := Catalog.describeType_of_describeRef described
        have ref := h.ordered.resolve_eq_ref (held q rfl) found
        have there := Catalog.mem_types_of_find? found
        exact ⟨t, there, ref, r, reached, .single passed, there,
          ref ▸ Catalog.describeRef_resolve_eq_ok.mpr described⟩
      · obtain ⟨t, ht, ref, s, worked⟩ := h.kept e he
        exact ⟨t, ht, ref, s, worked.move passed⟩

theorem orderly_empty : ({} : Registry).Orderly :=
  ⟨.nothing, ⟨rfl, by simp⟩, by simp⟩

/-- **Whatever a program does, order is kept.** -/
theorem Reached.orderly (h : Reached r) : r.Orderly := by
  induction h with
  | refl => exact orderly_empty
  | tail before move ih => exact ih.move before move

/-- **A descriptor that a program gets was worked out for the type that it asked for.** -/
theorem Reached.exists_workedOut (h : Reached r) (held : r.catalog.Holds v) {d : Descriptor}
    (described : (r.describe v).1 = .ok d) :
    ∃ q t s, v = .type (.entity q) ∧ r.catalog.find? q = some t ∧ r.WorkedOut t d s := by
  have orderly := h.orderly
  cases hk : r.kept? v with
  | some kept =>
    rw [describe_of_kept?_eq_some hk] at described
    obtain rfl := Except.ok.inj described
    obtain ⟨q, rfl, he⟩ := exists_of_kept? hk
    obtain ⟨t, ht, ref, s, worked⟩ := orderly.kept _ he
    have named : r.catalog.resolve q = t.ref := ref
    refine ⟨q, t, s, rfl, ?_, worked⟩
    rw [← Catalog.find?_resolve, named, orderly.ordered.find?_ref ht]
  | none =>
    rw [describe_of_kept?_eq_none hk] at described
    obtain ⟨q, rfl, now⟩ := Catalog.exists_of_describe described
    obtain ⟨t, found, -⟩ := Catalog.describeType_of_describeRef now
    have ref := orderly.ordered.resolve_eq_ref (held q rfl) found
    exact ⟨q, t, r, rfl, found, h, .refl, Catalog.mem_types_of_find? found,
      ref ▸ Catalog.describeRef_resolve_eq_ok.mpr now⟩

/-- What was worked out for a type has its label. -/
theorem WorkedOut.label {t : EntityType} {d : Descriptor} (h : r.WorkedOut t d s) :
    t.label = .text d.label.text :=
  Catalog.label_of_describeType
    (h.reached.orderly.ordered.describeType_of_describeRef h.there h.described)

/-- The types of a registry are still there later, under labels of that time. -/
theorem Leads.names_prefix (h : Leads s r) :
    s.catalog.types.map EntityType.name <+: r.catalog.types.map EntityType.name := by
  induction h with
  | refl => exact List.prefix_refl _
  | tail _ move ih =>
    refine ih.trans ?_
    cases move with
    | declare source made =>
      obtain ⟨d, -, declared, -⟩ := declare_eq_ok made
      obtain ⟨fields, -, types⟩ := Catalog.types_of_declare declared
      rw [types, List.map_append]
      exact List.prefix_append _ _
    | decorate held made =>
      obtain ⟨q, rfl, catalog, -⟩ := decorate_eq_ok made
      exact ⟨[], by rw [List.append_nil, catalog, Catalog.decorate_eq_relabel,
        Catalog.names_relabel]⟩
    | describe held => exact ⟨[], by rw [List.append_nil, catalog_describe]⟩

/-- **Where no name was used twice, what is kept is what would be worked out now.** -/
theorem Reached.faithful (h : Reached r)
    (distinct : (r.catalog.types.map EntityType.name).Nodup) : r.Faithful := by
  induction h with
  | refl => exact ⟨⟨rfl, by simp, by simp⟩, by simp⟩
  | @tail s r before move ih =>
    have names : s.catalog.types.map EntityType.name <+: r.catalog.types.map EntityType.name :=
      Leads.names_prefix (.single move)
    have faithful := ih (distinct.sublist names.sublist)
    cases move with
    | declare source made =>
      obtain ⟨d, read, made⟩ := bind_eq_ok.mp made
      refine faithful.declare (source.refers _ _ read) (fun known => ?_) made
      obtain ⟨c, declared, rfl⟩ := map_eq_ok.mp made
      obtain ⟨fields, -, types⟩ := Catalog.types_of_declare declared
      rw [types, List.map_append, List.map_singleton, Catalog.name_declared] at distinct
      exact (List.nodup_append.mp distinct).2.2 _ known _ (List.mem_singleton_self _) rfl
    | decorate held made => exact faithful.decorate made
    | describe held => exact (faithful.describe held).2.2

end Registry

end GraphMapper
