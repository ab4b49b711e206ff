import GraphMapper.Registry
import GraphMapper.Proofs.Catalog.Growth
import GraphMapper.Proofs.Catalog.Labels

/-!
# Steps in the use of a registry

A registry is used in **steps** (`GraphMapper.Registry.Step`): types are declared and decorated,
and in between it is asked for descriptors, for labels and for types. Declarations are read when
they are made (`GraphMapper.Source`), so they may refer to types that are declared later.

The registry keeps the descriptors it has worked out. It is **faithful**
(`GraphMapper.Registry.Faithful`) as long as every one of them is the one that would be worked out
now. Each step keeps it so, provided that no name is declared twice: a declaration as what had a
descriptor has the same one afterwards, a decoration as the only descriptor that it changes is the
one that is dropped, and a question as what fails leaves nothing behind. So a step answers by the
catalog alone (`GraphMapper.Registry.Faithful.step`), and this goes for any row of steps
(`GraphMapper.Registry.Faithful.answers_eq`).
-/

namespace GraphMapper

open Outcome

/-- A declaration as it is written. What it declares depends on what the names in it refer to when
it is read. -/
structure Source where
  /-- The name of the type. -/
  name : String
  /-- The declaration, by what names refer to. -/
  read : (String → EntityRef) → Except Failure Declaration
  /-- It declares a type of this name. -/
  named : ∀ refer d, read refer = .ok d → d.name = name
  /-- It refers to types by their names. -/
  refers : ∀ refer d, read refer = .ok d →
    ∀ f ∈ d.fields, ∀ q ∈ f.type.references, ∃ name, q = refer name

/-- What is given where a type is asked for. -/
inductive Mention where
  /-- The type that a name stands for. -/
  | named (name : String)
  /-- Something that is no entity type. -/
  | other (v : Value) (different : ∀ r, v ≠ .type (.entity r))

/-- The value that is given. -/
def Mention.value (c : Catalog) : Mention → Value
  | .named name => .type (.entity (c.refer name))
  | .other v _ => v

/-- Whether a value can be given where a type is asked for: an entity type is one of the catalog, or
a name that may be declared later. -/
def Catalog.Holds (c : Catalog) (v : Value) : Prop := ∀ q, v = .type (.entity q) → c.Admits q

theorem Mention.holds (type : Mention) (c : Catalog) : c.Holds (type.value c) := by
  rintro q hq
  cases type with
  | named name =>
    obtain rfl : c.refer name = q := by simpa [value] using hq
    exact c.admits_refer name
  | other v different => exact absurd hq (different q)

theorem Catalog.holds_ref {c : Catalog} {t : EntityType} (ht : t ∈ c.types) :
    c.Holds (.type (.entity t.ref)) := by
  rintro q ⟨⟩
  exact .ref ht

namespace Registry

/-- A step in the use of a registry. -/
inductive Step where
  /-- A type is declared. -/
  | declare (source : Source)
  /-- A type is decorated with a label. -/
  | decorate (type : Mention) (label : Value)
  /-- A type is asked for its descriptor. -/
  | describe (type : Mention)
  /-- A type is asked for its label. -/
  | labelOf (type : Mention)
  /-- The type with a label is asked for. -/
  | findByLabel (label : Value)
  /-- The names of all types are asked for. -/
  | names

/-- What a step answers. -/
inductive Answer where
  /-- It was done. -/
  | done
  /-- A descriptor. -/
  | descriptor (d : Descriptor)
  /-- A label. -/
  | label (l : Identifier)
  /-- A type, if there is one. -/
  | found (type? : Option EntityRef)
  /-- Names. -/
  | names (names : List String)

namespace Step

/-- Whether the step only asks. -/
def isQuestion : Step → Bool
  | .declare _ | .decorate _ _ => false
  | _ => true

/-- Whether the step declares a type. -/
def isDeclaration : Step → Bool
  | .declare _ => true
  | _ => false

/-- The name that the step declares. -/
def name? : Step → Option String
  | .declare source => some source.name
  | _ => none

/-- The label of the last decoration of a type since its declaration, after one more step. -/
def decoration (name : String) (last : Option Value) : Step → Option Value
  | .declare source => if source.name = name then none else last
  | .decorate (.named other) label =>
    if other = name ∧ name ≠ baseTypeName then some label else last
  | _ => last

end Step

/-- The answer where something was to be done, and the registry afterwards. -/
def taken (r : Registry) : Except Failure Registry → Except Failure Answer × Registry
  | .ok r' => (.ok .done, r')
  | .error e => (.error e, r)

/-- The answer to a step, and the registry afterwards. -/
def step (r : Registry) : Step → Except Failure Answer × Registry
  | .declare source => r.taken (source.read r.catalog.refer >>= r.declare)
  | .decorate type label => r.taken (r.decorate (type.value r.catalog) label)
  | .describe type =>
    let (answer, r) := r.describe (type.value r.catalog)
    (answer.map .descriptor, r)
  | .labelOf type =>
    let (answer, r) := r.labelOf (type.value r.catalog)
    (answer.map .label, r)
  | .findByLabel label => (.ok (.found ((r.catalog.findByLabel? label).map EntityType.ref)), r)
  | .names => (.ok (.names r.catalog.names), r)

/-- The answers to a row of steps. -/
def answers (r : Registry) : List Step → List (Except Failure Answer)
  | [] => []
  | s :: rest => (r.step s).1 :: answers (r.step s).2 rest

/-- The registry after a row of steps. -/
def after (steps : List Step) (r : Registry) : Registry := steps.foldl (fun r s => (r.step s).2) r

/-- The answer to a step after others, all of them taken with a registry that is new. -/
def answerAfter (steps : List Step) (s : Step) : Except Failure Answer :=
  ((after steps {}).step s).1

/-- The names that are declared in a row of steps. -/
def declaredNames (steps : List Step) : List String := steps.filterMap Step.name?

/-- The label of the last decoration of a type since its declaration. -/
def lastDecoration (name : String) (steps : List Step) : Option Value :=
  steps.foldl (Step.decoration name) none

end Registry

/-! ### Steps in a catalog -/

namespace Catalog

open Registry (Answer declaredNames lastDecoration)

variable {c c' : Catalog} {s : Registry.Step} {steps : List Registry.Step}

/-- What a step answers by the catalog alone, nothing being kept. -/
def answer (c : Catalog) : Registry.Step → Except Failure Answer
  | .declare source => (source.read c.refer >>= c.declare).map fun _ => .done
  | .decorate type _ => match type.value c with
    | .type (.entity r) => if c.knows r then .ok .done else .error .notAnEntityType
    | _ => .error .notAnEntityType
  | .describe type => (c.describe (type.value c)).map .descriptor
  | .labelOf type => (c.describe (type.value c)).map fun d => .label d.label
  | .findByLabel label => .ok (.found ((c.findByLabel? label).map EntityType.ref))
  | .names => .ok (.names c.names)

/-- The catalog that was made, or the one before where none was. -/
def taken (c : Catalog) : Except Failure Catalog → Catalog
  | .ok c' => c'
  | .error _ => c

/-- The catalog after a step. -/
def next (c : Catalog) : Registry.Step → Catalog
  | .declare source => c.taken (source.read c.refer >>= c.declare)
  | .decorate (.named name) label => c.decorate (c.refer name) label
  | _ => c

/-- What a row of steps answers by the catalog alone. -/
def answers (c : Catalog) : List Registry.Step → List (Except Failure Answer)
  | [] => []
  | s :: rest => c.answer s :: answers (c.next s) rest

/-- The catalog after a row of steps. -/
def after (steps : List Registry.Step) (c : Catalog) : Catalog := steps.foldl next c

theorem next_of_isQuestion (c : Catalog) (h : s.isQuestion = true) : c.next s = c := by
  cases s with
  | declare source => cases h
  | decorate type label => cases h
  | _ => rfl

/-- The names in a catalog are declared in steps. -/
theorem mem_names_next {name : String} (h : name ∈ (c.next s).types.map EntityType.name) :
    name ∈ c.types.map EntityType.name ∨ s.name? = some name := by
  cases s with
  | declare source =>
    rw [next] at h
    cases made : source.read c.refer >>= c.declare with
    | ok c' =>
      rw [made] at h
      change name ∈ c'.types.map EntityType.name at h
      obtain ⟨d, read, declared⟩ := bind_eq_ok.mp made
      obtain ⟨fields, -, types⟩ := types_of_declare declared
      rw [types, List.map_append, List.map_singleton, name_declared] at h
      refine (List.mem_append.mp h).imp_right fun h => ?_
      rw [List.mem_singleton.mp h, source.named _ _ read]
      rfl
    | error e =>
      rw [made] at h
      exact .inl h
  | decorate type label =>
    cases type with
    | named other =>
      rw [next, decorate_eq_relabel, names_relabel] at h
      exact .inl h
    | other v different => exact .inl h
  | _ => exact .inl h

/-- **A step leads from a sound catalog to a sound one**, if what it declares has a new name. -/
theorem Sound.next (h : c.Sound)
    (fresh : ∀ name, s.name? = some name → name ∉ c.types.map EntityType.name) :
    (c.next s).Sound := by
  cases s with
  | declare source =>
    rw [Catalog.next]
    cases made : source.read c.refer >>= c.declare with
    | ok c' =>
      obtain ⟨d, read, declared⟩ := bind_eq_ok.mp made
      have named := source.named _ _ read
      exact h.declare (source.refers _ _ read) (named ▸ fresh source.name rfl) declared
    | error e => exact h
  | decorate type label =>
    cases type with
    | named other =>
      rw [Catalog.next, decorate_eq_relabel]
      exact h.relabel _
    | other v different => exact h
  | _ => exact h

/-- Steps declare types of different names, and no name that is declared already. -/
structure Takes (c : Catalog) (steps : List Registry.Step) : Prop where
  /-- The names are different. -/
  distinct : (declaredNames steps).Nodup
  /-- They are new. -/
  fresh : ∀ name ∈ declaredNames steps, name ∉ c.types.map EntityType.name

theorem Takes.head {rest : List Registry.Step} (h : c.Takes (s :: rest)) :
    ∀ name, s.name? = some name → name ∉ c.types.map EntityType.name := by
  intro name hs
  exact h.fresh name (List.mem_filterMap.mpr ⟨s, List.mem_cons_self, hs⟩)

theorem Takes.tail {rest : List Registry.Step} (h : c.Takes (s :: rest)) :
    (c.next s).Takes rest := by
  obtain ⟨distinct, fresh⟩ := h
  unfold declaredNames at distinct fresh
  cases hs : s.name? with
  | none =>
    rw [List.filterMap_cons_none hs] at distinct fresh
    refine ⟨distinct, fun name hn known => ?_⟩
    rcases mem_names_next known with known | declared
    · exact fresh name hn known
    · rw [hs] at declared
      cases declared
  | some own =>
    rw [List.filterMap_cons_some hs] at distinct fresh
    obtain ⟨other, distinct⟩ := List.nodup_cons.mp distinct
    refine ⟨distinct, fun name hn known => ?_⟩
    rcases mem_names_next known with known | declared
    · exact fresh name (List.mem_cons_of_mem _ hn) known
    · obtain rfl : own = name := Option.some.inj (hs.symm.trans declared)
      exact other hn

end Catalog

/-! ### What is kept -/

/-- What has a descriptor is an entity type. -/
theorem Catalog.exists_of_describe {c : Catalog} {v : Value} {d : Descriptor}
    (h : c.describe v = .ok d) : ∃ q, v = .type (.entity q) ∧ c.describeRef q = .ok d := by
  obtain ⟨q, hv, h⟩ := bind_eq_ok.mp h
  exact ⟨q, Value.entityRef_eq_ok hv, h⟩

namespace Registry

variable {r r' : Registry} {steps : List Step}

/-- A registry is faithful if its catalog is sound, and every descriptor kept is the one that would
be worked out now. -/
structure Faithful (r : Registry) : Prop where
  /-- The catalog is sound. -/
  sound : r.catalog.Sound
  /-- What is kept for a type describes it. -/
  kept : ∀ e ∈ r.described, ∃ t ∈ r.catalog.types,
    e.1 = t.ref ∧ r.catalog.describeRef t.ref = .ok e.2

/-- What is kept is kept for an entity type. -/
theorem exists_of_kept? {v : Value} {d : Descriptor} (h : r.kept? v = some d) :
    ∃ q, v = .type (.entity q) ∧ (r.catalog.resolve q, d) ∈ r.described := by
  unfold kept? at h
  split at h
  · next q => exact ⟨q, rfl, Assoc.mem_of_lookup h⟩
  · cases h

/-- What is kept is the answer. -/
theorem describe_of_kept?_eq_some {v : Value} {d : Descriptor} (hk : r.kept? v = some d) :
    r.describe v = (.ok d, r) := by
  rw [Registry.describe, hk]

/-- Where nothing is kept, the answer is worked out. -/
theorem describe_of_kept?_eq_none {v : Value} (hk : r.kept? v = none) :
    (r.describe v).1 = r.catalog.describe v := by
  rw [Registry.describe, hk]
  cases r.catalog.describe v <;> rfl

/-- What is kept for a type is its descriptor. -/
theorem Faithful.describe_of_kept? (h : r.Faithful) {v : Value} {d : Descriptor}
    (hk : r.kept? v = some d) : r.catalog.describe v = .ok d := by
  obtain ⟨q, rfl, he⟩ := exists_of_kept? hk
  obtain ⟨t, -, same, described⟩ := h.kept _ he
  have named : r.catalog.resolve q = t.ref := same
  exact Catalog.describeRef_resolve_eq_ok.mp (named ▸ described)

theorem Faithful.keep (h : r.Faithful) {v : Value} (held : r.catalog.Holds v) {d : Descriptor}
    (described : r.catalog.describe v = .ok d) :
    (r.keep v d).catalog = r.catalog ∧ (r.keep v d).Faithful := by
  obtain ⟨q, rfl, described⟩ := Catalog.exists_of_describe described
  refine ⟨rfl, h.sound, List.forall_mem_cons.mpr ⟨?_, h.kept⟩⟩
  obtain ⟨t, found, -⟩ := Catalog.describeType_of_describeRef described
  have same := h.sound.ordered.resolve_eq_ref (held q rfl) found
  exact ⟨t, Catalog.mem_types_of_find? found, same,
    same ▸ Catalog.describeRef_resolve_eq_ok.mpr described⟩

/-- **A descriptor that is asked for is the one worked out now**, and what is kept stays so. -/
theorem Faithful.describe (h : r.Faithful) {v : Value} (held : r.catalog.Holds v) :
    (r.describe v).1 = r.catalog.describe v ∧ (r.describe v).2.catalog = r.catalog ∧
      (r.describe v).2.Faithful := by
  unfold Registry.describe
  cases hk : r.kept? v with
  | some d => exact ⟨(h.describe_of_kept? hk).symm, rfl, h⟩
  | none =>
    cases described : r.catalog.describe v with
    | error e => exact ⟨rfl, rfl, h⟩
    | ok d => exact ⟨rfl, h.keep held described⟩

/-- A decoration drops the only descriptor that it changes. -/
theorem Faithful.decorate (h : r.Faithful) {v label : Value} (made : r.decorate v label = .ok r') :
    r'.Faithful := by
  unfold Registry.decorate at made
  split at made
  · next ref =>
    split at made
    · obtain rfl := Except.ok.inj made
      have relabelled := r.catalog.decorate_eq_relabel ref label
      refine ⟨relabelled ▸ h.sound.relabel _, fun e he => ?_⟩
      obtain ⟨he, dropped⟩ := List.mem_filter.mp he
      obtain ⟨t, ht, same, described⟩ := h.kept e he
      have other : t.ref ≠ r.catalog.resolve ref := same ▸ of_decide_eq_true dropped
      exact ⟨t, List.mem_map.mpr ⟨t, ht, if_neg other⟩, same,
        (h.sound.ordered.describeRef_decorate ht other label).trans described⟩
    · cases made
  · cases made

/-- A declaration changes no descriptor. -/
theorem Faithful.declare (h : r.Faithful) {d : Declaration} (reads : r.catalog.Reads d)
    (fresh : d.name ∉ r.catalog.types.map EntityType.name) (made : r.declare d = .ok r') :
    r'.Faithful := by
  obtain ⟨c, declared, rfl⟩ := map_eq_ok.mp made
  obtain ⟨fields, -, gains⟩ := Catalog.gains_of_declare fresh declared
  have sound := h.sound.declare reads fresh declared
  refine ⟨sound, fun e he => ?_⟩
  obtain ⟨t, ht, same, described⟩ := h.kept e he
  exact ⟨t, gains.mem_types ht, same,
    gains.describeRef h.sound.ordered sound.ordered (.ref ht) described⟩

theorem Faithful.step_declare (h : r.Faithful) {source : Source}
    (fresh : source.name ∉ r.catalog.types.map EntityType.name) :
    (r.step (.declare source)).1 = r.catalog.answer (.declare source) ∧
      (r.step (.declare source)).2.catalog = r.catalog.next (.declare source) ∧
      (r.step (.declare source)).2.Faithful := by
  have made : source.read r.catalog.refer >>= r.declare =
      (source.read r.catalog.refer >>= r.catalog.declare).map fun catalog =>
        { r with catalog } := by
    cases source.read r.catalog.refer <;> rfl
  rw [Registry.step, Catalog.answer, Catalog.next, made]
  cases hc : source.read r.catalog.refer >>= r.catalog.declare with
  | error e => exact ⟨rfl, rfl, h⟩
  | ok c =>
    obtain ⟨d, read, declared⟩ := bind_eq_ok.mp hc
    have named := source.named _ _ read
    exact ⟨rfl, rfl, h.declare (source.refers _ _ read) (named ▸ fresh)
      (map_eq_ok.mpr ⟨c, declared, rfl⟩)⟩

theorem Faithful.step_decorate (h : r.Faithful) (type : Mention) (label : Value) :
    (r.step (.decorate type label)).1 = r.catalog.answer (.decorate type label) ∧
      (r.step (.decorate type label)).2.catalog = r.catalog.next (.decorate type label) ∧
      (r.step (.decorate type label)).2.Faithful := by
  cases type with
  | other v different =>
    have refused : r.decorate v label = .error .notAnEntityType := by
      unfold Registry.decorate
      split
      · exact absurd rfl (different _)
      · rfl
    have refused' : r.catalog.answer (.decorate (.other v different) label) =
        .error .notAnEntityType := by
      rw [Catalog.answer]
      split
      · next same => exact absurd same (different _)
      · rfl
    rw [Registry.step, Mention.value, refused, refused']
    exact ⟨rfl, rfl, h⟩
  | named name =>
    cases known : r.catalog.knows (r.catalog.refer name) with
    | true =>
      have done : r.decorate ((Mention.named name).value r.catalog) label = .ok _ := if_pos known
      rw [Registry.step, done]
      exact ⟨(if_pos known).symm, rfl, h.decorate done⟩
    | false =>
      have unknown : ¬r.catalog.knows (r.catalog.refer name) = true := by simp [known]
      have refused : r.decorate ((Mention.named name).value r.catalog) label =
          .error .notAnEntityType := if_neg unknown
      rw [Registry.step, refused]
      exact ⟨(if_neg unknown).symm, (Catalog.decorate_of_not_knows known label).symm, h⟩

/-- **A step of a faithful registry** answers by the catalog alone, and leads to a faithful
registry. -/
theorem Faithful.step (h : r.Faithful) {s : Step}
    (fresh : ∀ name, s.name? = some name → name ∉ r.catalog.types.map EntityType.name) :
    (r.step s).1 = r.catalog.answer s ∧ (r.step s).2.catalog = r.catalog.next s ∧
      (r.step s).2.Faithful := by
  cases s with
  | declare source => exact h.step_declare (fresh source.name rfl)
  | decorate type label => exact h.step_decorate type label
  | describe type =>
    obtain ⟨answer, catalog, faithful⟩ := h.describe (type.holds r.catalog)
    exact ⟨congrArg (Except.map Answer.descriptor) answer, catalog, faithful⟩
  | labelOf type =>
    obtain ⟨answer, catalog, faithful⟩ := h.describe (type.holds r.catalog)
    refine ⟨?_, catalog, faithful⟩
    change ((r.describe (type.value r.catalog)).1.map Descriptor.label).map Answer.label = _
    rw [answer, Catalog.answer]
    cases r.catalog.describe (type.value r.catalog) <;> rfl
  | findByLabel label => exact ⟨rfl, rfl, h⟩
  | names => exact ⟨rfl, rfl, h⟩

/-- **What a faithful registry answers, the catalog answers.** -/
theorem Faithful.answers_eq (h : r.Faithful) (takes : r.catalog.Takes steps) :
    r.answers steps = r.catalog.answers steps := by
  induction steps generalizing r with
  | nil => rfl
  | cons s rest ih =>
    obtain ⟨answer, catalog, faithful⟩ := h.step takes.head
    rw [answers, Catalog.answers, answer, ih faithful (catalog ▸ takes.tail), catalog]

theorem Faithful.after (h : r.Faithful) (takes : r.catalog.Takes steps) :
    (after steps r).catalog = r.catalog.after steps ∧ (after steps r).Faithful := by
  induction steps generalizing r with
  | nil => exact ⟨rfl, h⟩
  | cons s rest ih =>
    obtain ⟨-, catalog, faithful⟩ := h.step takes.head
    obtain ⟨later, kept⟩ := ih faithful (catalog ▸ takes.tail)
    exact ⟨later.trans (by rw [catalog]; rfl), kept⟩

end Registry

end GraphMapper
