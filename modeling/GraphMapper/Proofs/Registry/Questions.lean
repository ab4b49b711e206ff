import GraphMapper.Proofs.Registry.Faithful
import Mathlib.Data.List.Induction

/-!
# Questions to a registry

A registry keeps the descriptors that it was asked for, so a question is not without effect. All
the same it has none that shows: questions that are left out of a row of steps change the answer to
no other step (`GraphMapper.Registry.questions_unobservable`). As a faithful registry answers by
its catalog alone, this is a matter of catalogs, and questions leave those as they are.

The catalog after a row of steps is in turn the one of the declarations among them, in which the
types are labelled by their last decorations since (`GraphMapper.Catalog.after_eq_relabel`). All
that a descriptor shows of this is the label of its own type.
-/

namespace GraphMapper

/-! ### Questions that are left out -/

/-- What remains of a list when the items that are not marked are left out. -/
def Registry.remaining {α : Type} (marked : List (α × Bool)) : List α :=
  (marked.filter Prod.snd).map Prod.fst

namespace Catalog

open Registry (Step declaredNames lastDecoration remaining)

variable {c : Catalog} {s : Registry.Step} {steps : List Registry.Step}

/-- Questions that are left out change no answer of what remains. -/
theorem answers_remaining {marked : List (Registry.Step × Bool)}
    (questions : ∀ m ∈ marked, m.2 = false → m.1.isQuestion = true) (c : Catalog) :
    c.answers (remaining marked) =
      remaining ((c.answers (marked.map Prod.fst)).zip (marked.map Prod.snd)) := by
  induction marked generalizing c with
  | nil => rfl
  | cons m rest ih =>
    obtain ⟨first, others⟩ := List.forall_mem_cons.mp questions
    rcases m with ⟨s, _ | _⟩
    · have same := c.next_of_isQuestion (first rfl)
      exact (ih others c).trans (by rw [List.map_cons, answers, same]; rfl)
    · exact congrArg (c.answer s :: ·) (ih others (c.next s))

/-! ### The catalog after a row of steps -/

theorem after_append (c : Catalog) (steps : List Registry.Step) (s : Registry.Step) :
    c.after (steps ++ [s]) = (c.after steps).next s :=
  List.foldl_append

theorem mem_names_after {name : String} (h : name ∈ (c.after steps).types.map EntityType.name) :
    name ∈ c.types.map EntityType.name ∨ name ∈ declaredNames steps := by
  induction steps generalizing c with
  | nil => exact .inl h
  | cons s rest ih =>
    rcases ih h with before | later
    · refine (mem_names_next before).imp_right fun declared => ?_
      exact List.mem_filterMap.mpr ⟨s, List.mem_cons_self, declared⟩
    · obtain ⟨s', hs, declared⟩ := List.mem_filterMap.mp later
      exact .inr (List.mem_filterMap.mpr ⟨s', List.mem_cons_of_mem _ hs, declared⟩)

theorem Sound.after (h : c.Sound) (takes : c.Takes steps) : (c.after steps).Sound := by
  induction steps generalizing c with
  | nil => exact h
  | cons s rest ih => exact ih (h.next takes.head) takes.tail

/-- A name stands for one type, unless it is the name of the base type. -/
theorem Sound.ref_eq_refer_iff (h : c.Sound) {t : EntityType} (ht : t ∈ c.types) (name : String) :
    t.ref = c.refer name ↔ name = t.name ∧ t.name ≠ baseTypeName := by
  constructor
  · intro same
    unfold refer at same
    split at same
    · cases same
    · next other =>
      cases found : c.latest? name with
      | none =>
        rw [found] at same
        cases same
      | some u =>
        rw [found] at same
        obtain ⟨-, named⟩ := mem_types_of_latest? found
        have same : t.name = u.name := congrArg EntityRef.name same
        rw [same, named]
        exact ⟨rfl, other⟩
  · rintro ⟨rfl, other⟩
    exact (h.refer_name ht other).symm

/-- A declaration takes no notice of labels. -/
theorem next_declare_relabel {source : Source} (fresh : source.name ∉ c.types.map EntityType.name)
    (f : EntityType → Value) :
    (c.relabel f).next (.declare source) = (c.next (.declare source)).relabel fun t =>
      if source.name = t.name then t.label else f t := by
  have unchanged : c.relabel f = c.relabel fun t => if source.name = t.name then t.label else f t :=
    relabel_congr fun t ht => by
      have other : source.name ≠ t.name := fun same => fresh (same ▸ List.mem_map_of_mem ht)
      rw [if_neg other]
  rw [next, next, refer_relabel]
  cases read : source.read c.refer with
  | error e => exact unchanged
  | ok d =>
    have named := source.named _ _ read
    change (c.relabel f).taken ((c.relabel f).declare d) = (c.taken (c.declare d)).relabel _
    rw [declare_relabel (named ▸ fresh)]
    cases c.declare d with
    | error e => exact unchanged
    | ok c' =>
      simp only [Except.map, taken, named, eq_comm]

/-- A decoration gives a label to the type that its name stands for. -/
theorem Sound.next_decorate_relabel (h : c.Sound) (f : EntityType → Value) (name : String)
    (label : Value) :
    (c.relabel f).next (.decorate (.named name) label) = c.relabel fun t =>
      if name = t.name ∧ t.name ≠ baseTypeName then (t.decorate label).label else f t := by
  rw [Catalog.next, decorate_eq_relabel, relabel_relabel, resolve_relabel, refer_relabel,
    resolve_refer]
  refine relabel_congr fun t ht => ?_
  change (if t.ref = c.refer name then (t.decorate label).label else f t) = _
  simp only [h.ref_eq_refer_iff ht]

/-- What a type is labelled after a row of steps. -/
def labelAfter (steps : List Registry.Step) (t : EntityType) : Value :=
  match lastDecoration t.name steps with
  | some label => (t.decorate label).label
  | none => t.label

theorem lastDecoration_append (name : String) (steps : List Registry.Step) (s : Registry.Step) :
    lastDecoration name (steps ++ [s]) = s.decoration name (lastDecoration name steps) :=
  List.foldl_append

theorem labelAfter_declare (steps : List Registry.Step) (source : Source) :
    labelAfter (steps ++ [.declare source]) = fun t =>
      if source.name = t.name then t.label else labelAfter steps t := by
  funext t
  rw [labelAfter, lastDecoration_append, Step.decoration]
  by_cases own : source.name = t.name
  · rw [if_pos own, if_pos own]
  · rw [if_neg own, if_neg own, labelAfter]

theorem labelAfter_decorate (steps : List Registry.Step) (name : String) (label : Value) :
    labelAfter (steps ++ [.decorate (.named name) label]) = fun t =>
      if name = t.name ∧ t.name ≠ baseTypeName then (t.decorate label).label
      else labelAfter steps t := by
  funext t
  rw [labelAfter, lastDecoration_append, Step.decoration]
  by_cases own : name = t.name ∧ t.name ≠ baseTypeName
  · rw [if_pos own, if_pos own]
  · rw [if_neg own, if_neg own, labelAfter]

theorem declaredNames_filter (steps : List Registry.Step) :
    declaredNames (steps.filter Step.isDeclaration) = declaredNames steps := by
  rw [declaredNames, List.filterMap_filter]
  refine List.filterMap_congr fun s _ => ?_
  cases s <;> rfl

theorem sound_empty : ({} : Catalog).Sound := ⟨rfl, List.nodup_nil, by simp⟩

theorem takes_empty (distinct : (declaredNames steps).Nodup) : ({} : Catalog).Takes steps :=
  ⟨distinct, by simp⟩

/-- The catalog of the declarations among some steps. -/
def declaredIn (steps : List Registry.Step) : Catalog :=
  ({} : Catalog).after (steps.filter Step.isDeclaration)

theorem declaredIn_append (steps : List Registry.Step) (s : Registry.Step) :
    declaredIn (steps ++ [s]) =
      if s.isDeclaration then (declaredIn steps).next s else declaredIn steps := by
  unfold declaredIn
  rw [List.filter_append, List.filter_singleton]
  cases s.isDeclaration with
  | true => exact after_append _ _ s
  | false => exact congrArg (Catalog.after · {}) (List.append_nil _)

theorem sound_declaredIn (distinct : (declaredNames steps).Nodup) : (declaredIn steps).Sound :=
  sound_empty.after (takes_empty (by rwa [declaredNames_filter]))

theorem mem_declaredNames_of_declaredIn {name : String}
    (h : name ∈ (declaredIn steps).types.map EntityType.name) : name ∈ declaredNames steps := by
  rcases mem_names_after h with h | h
  · cases h
  · rwa [declaredNames_filter] at h

/-- **The catalog after a row of steps** is the one of the declarations among them, relabelled. -/
theorem after_eq_relabel (distinct : (declaredNames steps).Nodup) :
    ({} : Catalog).after steps = (declaredIn steps).relabel (labelAfter steps) := by
  induction steps using List.reverseRecOn with
  | nil => rfl
  | append_singleton steps s ih =>
    have split : declaredNames (steps ++ [s]) = declaredNames steps ++ declaredNames [s] :=
      List.filterMap_append
    rw [split] at distinct
    obtain ⟨before, -, apart⟩ := List.nodup_append.mp distinct
    rw [after_append, ih before, declaredIn_append]
    cases s with
    | declare source =>
      have fresh : source.name ∉ (declaredIn steps).types.map EntityType.name := fun known =>
        apart _ (mem_declaredNames_of_declaredIn known) _ (List.mem_singleton_self _) rfl
      rw [next_declare_relabel fresh, labelAfter_declare]
      rfl
    | decorate type label =>
      cases type with
      | named name =>
        rw [(sound_declaredIn before).next_decorate_relabel, labelAfter_decorate]
        rfl
      | other v different =>
        refine relabel_congr fun t _ => ?_
        rw [labelAfter, labelAfter, lastDecoration_append]
        rfl
    | _ =>
      refine relabel_congr fun t _ => ?_
      rw [labelAfter, labelAfter, lastDecoration_append]
      rfl

/-- **The descriptor of a type** depends on the declarations so far, and on its own last
decoration. -/
theorem answer_describe_congr {steps' : List Registry.Step} {name : String}
    (distinct : (declaredNames steps).Nodup)
    (declarations : steps'.filter Step.isDeclaration = steps.filter Step.isDeclaration)
    (decoration : lastDecoration name steps' = lastDecoration name steps) :
    (({} : Catalog).after steps').answer (.describe (.named name)) =
      (({} : Catalog).after steps).answer (.describe (.named name)) := by
  have distinct' : (declaredNames steps').Nodup := by
    rwa [← declaredNames_filter, declarations, declaredNames_filter]
  have same : declaredIn steps' = declaredIn steps := by
    unfold declaredIn
    rw [declarations]
  have sound := sound_declaredIn distinct
  rw [after_eq_relabel distinct', after_eq_relabel distinct, same]
  generalize declaredIn steps = c at sound
  change (describeRef _ ((c.relabel _).refer name)).map _ =
    (describeRef _ ((c.relabel _).refer name)).map _
  rw [refer_relabel, refer_relabel]
  refine congrArg _ (describeRef_relabel fun t found => ?_)
  have refers : t.ref = c.refer name := by
    rw [← sound.ordered.resolve_eq_ref (c.admits_refer name) found, resolve_refer]
  obtain ⟨rfl, -⟩ := (sound.ref_eq_refer_iff (mem_types_of_find? found) name).mp refers
  rw [labelAfter, labelAfter, decoration]

end Catalog

namespace Registry

variable {steps : List Step} {name : String}

theorem faithful_empty : ({} : Registry).Faithful := ⟨Catalog.sound_empty, by simp⟩

theorem answerAfter_question (distinct : (declaredNames steps).Nodup) {s : Step}
    (question : s.isQuestion = true) :
    answerAfter steps s = (({} : Catalog).after steps).answer s := by
  obtain ⟨catalog, faithful⟩ := faithful_empty.after (Catalog.takes_empty distinct)
  have fresh : ∀ name, s.name? = some name →
      name ∉ (after steps {}).catalog.types.map EntityType.name := by
    intro name declares
    cases s with
    | declare source => cases question
    | _ => cases declares
  obtain ⟨answer, -, -⟩ := faithful.step fresh
  rw [answerAfter, answer, catalog]

/-- **The answer to a question for a descriptor** depends on the declarations so far, and on the
last decoration of the type. -/
theorem answerAfter_describe_congr {steps' : List Step} (distinct : (declaredNames steps).Nodup)
    (declarations : steps'.filter Step.isDeclaration = steps.filter Step.isDeclaration)
    (decoration : lastDecoration name steps' = lastDecoration name steps) :
    answerAfter steps' (.describe (.named name)) = answerAfter steps (.describe (.named name)) := by
  have distinct' : (declaredNames steps').Nodup := by
    rwa [← Catalog.declaredNames_filter, declarations, Catalog.declaredNames_filter]
  rw [answerAfter_question distinct' rfl, answerAfter_question distinct rfl]
  exact Catalog.answer_describe_congr distinct declarations decoration

/-- Questions declare nothing. -/
theorem declaredNames_remaining {marked : List (Step × Bool)}
    (questions : ∀ m ∈ marked, m.2 = false → m.1.isQuestion = true) :
    declaredNames (remaining marked) = declaredNames (marked.map Prod.fst) := by
  induction marked with
  | nil => rfl
  | cons m rest ih =>
    obtain ⟨first, others⟩ := List.forall_mem_cons.mp questions
    rcases m with ⟨s, _ | _⟩
    · have silent : s.name? = none := by
        cases s with
        | declare source => cases first rfl
        | _ => rfl
      exact (ih others).trans (List.filterMap_cons_none silent).symm
    · change List.filterMap Step.name? (s :: remaining rest) =
        List.filterMap Step.name? (s :: rest.map Prod.fst)
      cases declares : s.name? with
      | none =>
        rw [List.filterMap_cons_none declares, List.filterMap_cons_none declares]
        exact ih others
      | some own =>
        rw [List.filterMap_cons_some declares, List.filterMap_cons_some declares]
        exact congrArg (own :: ·) (ih others)

/-- A decoration of another type is none of this one. -/
theorem lastDecoration_of_ne {type : Mention} (other : type ≠ .named name) (label : Value)
    (before later : List Step) :
    lastDecoration name (before ++ .decorate type label :: later) =
      lastDecoration name (before ++ later) := by
  have unchanged (last : Option Value) :
      Step.decoration name last (.decorate type label) = last := by
    cases type with
    | named own =>
      refine if_neg fun ⟨same, _⟩ => other ?_
      rw [same]
    | other v different => rfl
  unfold lastDecoration
  rw [List.foldl_append, List.foldl_append, List.foldl_cons, unchanged]

/-! ### Posts and their authors -/

/-- Posts, which refer to their authors. -/
def post : Source where
  name := "Post"
  read refer := .ok
    { name := "Post"
      fields :=
        [{ name := "authors", type := .collection .list (.entity (refer "Author")),
           default := .emptyList,
           marks := [.relationship ⟨⟨"WROTE", by decide⟩, .incoming⟩] }] }
  named refer d read := by
    rw [← Except.ok.inj read]
  refers refer d read f hf q hq := by
    rw [← Except.ok.inj read] at hf
    obtain rfl := List.mem_singleton.mp hf
    exact ⟨"Author", List.mem_singleton.mp hq⟩

/-- Authors. -/
def author : Source where
  name := "Author"
  read _ := .ok { name := "Author" }
  named refer d read := by
    rw [← Except.ok.inj read]
  refers refer d read f hf q hq := by
    rw [← Except.ok.inj read] at hf
    cases hf

/-- Posts cannot be described before authors are declared, and can be afterwards. -/
theorem describe_post : ∃ d,
    answerAfter [.declare post] (.describe (.named "Post")) =
      .error (.configuration "Post" (.unresolved "Author")) ∧
    answerAfter [.declare post, .describe (.named "Post"), .declare author]
      (.describe (.named "Post")) = .ok (.descriptor d) := by
  exact ⟨_, rfl, rfl⟩

end Registry

end GraphMapper
