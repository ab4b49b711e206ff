import GraphMapper.Proofs.Acceptance
import GraphMapper.Proofs.Validation.Place
import GraphMapper.Related

/-!
# Loading what a relationship field leads to

The type of a relationship field is read twice. A descriptor takes its wrappers off and keeps the
entity type inside, and whether a collection was among them (`GraphMapper.TypeExpr.target`); so a
lookup gives a map, or a list of maps. Validation takes the type as it is.

With at most one collection around the entity type both mean the same, so what is found is
accepted, each map being fit for the entity type (`GraphMapper.Catalog.exists_accept_of_flat`). With
one collection inside another they do not: a descriptor is made, but what is found is a list of maps
where a list of lists is wanted, and no instance is ever made of it
(`GraphMapper.Catalog.construct_ne_ok_of_nested`). `GraphMapper.Catalog.loads_unless_nested` says
both. It leaves out two kinds of collection that are more than lists of what is in them: sets, since
an instance cannot be an item of a set, and what may merely be gone through one by one, since this
is not done before somebody asks for the items.
-/

namespace GraphMapper

open Checked Outcome

/-! ### Collections around an entity type -/

namespace TypeExpr

mutual

/-- The kinds of the collections around what an expression leads to, from the outside. -/
def collections : TypeExpr → List CollectionKind
  | .collection kind item => kind :: collections item
  | .union _ members => otherCollections members
  | .plain _ | .entity _ | .enumeration _ _ | .mapping _ _ _ | .bare _ => []

/-- The kinds of the collections in the first member other than null. -/
def otherCollections : List TypeExpr → List CollectionKind
  | [] => []
  | t :: rest => if t.isNull then otherCollections rest else collections t

end

/-- Expressions that lead to an entity type, with the kinds of the collections around it: wrappers
are collections, and unions of null and a single other member. -/
inductive Leads (r : EntityRef) : List CollectionKind → TypeExpr → Prop where
  /-- The entity type. -/
  | entity : Leads r [] (.entity r)
  /-- A collection. -/
  | collection (kind : CollectionKind) {kinds : List CollectionKind} {item : TypeExpr}
    (h : Leads r kinds item) : Leads r (kind :: kinds) (.collection kind item)
  /-- A union with a single member other than null. -/
  | union (form : UnionForm) {kinds : List CollectionKind} {members : List TypeExpr} {t : TypeExpr}
    (only : members.filter (!·.isNull) = [t]) (h : Leads r kinds t) :
    Leads r kinds (.union form members)

mutual

/-- An expression with a target leads to it, and there may be several if a collection is
around it. -/
theorem leads_of_target {r : EntityRef} : ∀ (t : TypeExpr) {many : Bool},
    t.target = ⟨some (.entity r), many⟩ →
      Leads r t.collections t ∧ many = !t.collections.isEmpty
  | .entity s, many, h => by
    obtain ⟨same, rfl⟩ := Target.mk.inj h
    obtain rfl : s = r := by simpa using same
    exact ⟨.entity, rfl⟩
  | .collection kind item, many, h => by
    obtain ⟨type, rfl⟩ := Target.mk.inj h
    have inside : item.target = ⟨some (.entity r), item.target.many⟩ := by rw [← type]
    obtain ⟨leads, -⟩ := leads_of_target item inside
    exact ⟨.collection kind leads, rfl⟩
  | .union form members, many, h => by
    rw [target] at h
    split at h
    · next one =>
      obtain ⟨t, first, leads, several⟩ := leads_of_firstOther members h
      obtain ⟨t', only⟩ := List.length_eq_one_iff.mp (List.countP_eq_length_filter.symm.trans one)
      rw [only] at first
      obtain rfl := Option.some.inj first
      exact ⟨.union form only leads, several⟩
    · cases h
  | .bare .list, _, h | .bare .map, _, h | .mapping _ _ _, _, h | .plain _, _, h
  | .enumeration _ _, _, h => by cases h

theorem leads_of_firstOther {r : EntityRef} : ∀ (members : List TypeExpr) {many : Bool},
    firstOther members = ⟨some (.entity r), many⟩ →
      ∃ t, (members.filter (!·.isNull)).head? = some t ∧ Leads r (otherCollections members) t ∧
        many = !(otherCollections members).isEmpty
  | [], _, h => by cases h
  | t :: rest, many, h => by
    rw [firstOther] at h
    rw [otherCollections]
    split at h
    · next null =>
      rw [if_pos null, List.filter_cons_of_neg (by simpa using null)]
      exact leads_of_firstOther rest h
    · next notNull =>
      rw [if_neg notNull, List.filter_cons_of_pos (by simpa using notNull)]
      obtain ⟨leads, several⟩ := leads_of_target t h
      exact ⟨t, rfl, leads, several⟩

end

section

variable {r : EntityRef} {kinds : List CollectionKind} {t : TypeExpr}
  {f : EntityRef → Value → Checked Accepted} {b : Bounds} {v : Value} {a : Accepted}

/-- The only member of a union other than null speaks for it, unless the value is null. -/
theorem accept_union_only {form : UnionForm} {members : List TypeExpr}
    (only : members.filter (!·.isNull) = [t]) (notNull : v.isNull = false) :
    accept f b (.union form members) v = t.accept f b v := by
  rw [accept, notNull, acceptMembers_eq, only]
  rfl

/-- What is accepted within the bounds of a field is accepted within those that the type looks
after. -/
theorem acceptBounded_eq_ok (h : t.acceptBounded f b v = .ok a) :
    t.accept f (b.split t).1 v = .ok a := by
  obtain ⟨a', accepted, h⟩ := bind_eq_ok.mp h
  obtain ⟨_, -, same⟩ := bind_eq_ok.mp h
  rwa [← pure_eq_ok.mp same]

theorem exists_accept_of_acceptWithin (notNull : v.isNull = false)
    (h : t.acceptWithin f b v = .ok a) : ∃ b', t.accept f b' v = .ok a := by
  unfold acceptWithin at h
  rw [notNull] at h
  split at h
  · rw [if_neg (by simp)] at h
    split at h
    · next only => exact ⟨_, (accept_union_only only notNull).trans (acceptBounded_eq_ok h)⟩
    · exact ⟨_, acceptBounded_eq_ok h⟩
  · exact ⟨_, acceptBounded_eq_ok h⟩

namespace Leads

theorem leavesItems (h : Leads r kinds t) : t.leavesItems = false := by
  cases h <;> rfl

/-- Without collections the entity type speaks for the expression. -/
theorem accept_eq (h : Leads r kinds t) (flat : kinds = []) (notNull : v.isNull = false) :
    t.accept f b v = f r v := by
  induction h with
  | entity => rfl
  | collection kind _ _ => cases flat
  | union form only _ ih => rw [accept_union_only only notNull, ih flat]

/-- A list is accepted by a single collection, unless it is a set, if its items are accepted by the
entity type. -/
theorem exists_accept_list (h : Leads r kinds t) (single : kinds.length = 1)
    (noSet : ∀ kind ∈ kinds, kind.isSet = false) {items : List Value}
    (each : ∀ v ∈ items, v.isNull = false ∧ ∃ a, f r v = .ok a) :
    ∃ a, t.accept f {} (.list items) = .ok a := by
  induction h with
  | entity => cases single
  | @collection kind kinds item inside _ =>
    have flat : kinds = [] := List.length_eq_zero_iff.mp (Nat.succ.inj single)
    by_cases looks : kind = .iterable
    · subst looks
      exact ⟨_, rfl⟩
    have all := CollectionKind.keepsAll_of_noSet (noSet kind List.mem_cons_self) looks
    obtain ⟨as, made⟩ := exists_forall₂ (R := fun v a => item.accept f {} v = .ok a) fun v hv => by
      obtain ⟨notNull, a, ha⟩ := each v hv
      exact ⟨a, (inside.accept_eq flat notNull).trans ha⟩
    refine ⟨kind.collect as, ?_⟩
    rw [accept, CollectionKind.accept_list all (by rw [inside.leavesItems]; rfl),
      acceptItems_eq_ok_iff.mpr ⟨made, rfl⟩]
    rfl
  | union form only _ ih => rw [accept_union_only only rfl]; exact ih single noSet

/-- A map is refused where a collection is wanted. -/
theorem refuses_accept_map (h : Leads r kinds t) (wrapped : kinds ≠ [])
    (looks : ∀ kind ∈ kinds, kind ≠ .iterable) (entries : Entries) :
    Refuses (t.accept f b (.map entries)) := by
  induction h generalizing b with
  | entity => exact absurd rfl wrapped
  | @collection kind _ item _ _ =>
    rcases CollectionKind.accept_of_not_list (looks kind List.mem_cons_self) b item
      (v := .map entries) (fun _ => by rintro ⟨⟩) with ⟨_, ⟨⟩, -⟩ | refuses
    exact refuses _
  | union form only _ ih => rw [accept_union_only only rfl]; exact ih wrapped looks

/-- A list with a map for its first item is not accepted where collections inside a collection are
wanted. -/
theorem accept_list_ne_ok (h : Leads r kinds t) (nested : 1 < kinds.length)
    (looks : ∀ kind ∈ kinds, kind ≠ .iterable) (entries : Entries) (rest : List Value) :
    t.accept f b (.list (.map entries :: rest)) ≠ .ok a := by
  induction h generalizing b with
  | entity => cases nested
  | @collection kind kinds item inside _ =>
    obtain ⟨outer, inner⟩ := List.forall_mem_cons.mp looks
    have wrapped : kinds ≠ [] := by
      rintro rfl
      cases Nat.lt_irrefl 1 nested
    have refuses : Refuses (item.accept f {} (.map entries)) :=
      inside.refuses_accept_map wrapped inner entries
    intro accepted
    rw [accept] at accepted
    by_cases isSet : kind.isSet = true
    · rw [CollectionKind.accept_set isSet] at accepted
      exact acceptSet_ne_ok refuses accepted
    have all := CollectionKind.keepsAll_of_noSet (by simpa using isSet) outer
    rw [CollectionKind.accept_list all (by rw [inside.leavesItems]; rfl)] at accepted
    obtain ⟨as, made, -⟩ := map_eq_ok.mp accepted
    obtain ⟨each, -⟩ := acceptItems_eq_ok_iff.mp made
    obtain ⟨a, as, first, -, rfl⟩ := List.forall₂_cons_left_iff.mp each
    exact refuses.ne_ok a first
  | union form only _ ih => rw [accept_union_only only rfl]; exact ih nested looks

end Leads

end

end TypeExpr

/-! ### Relationship fields -/

namespace Related

variable {fd : FieldDescriptor} {edge : Relationship} {related : EntityRef}

theorem fieldValue_one (role : fd.role = .relationship edge related false) (first : Value)
    (rest : List Value) : fieldValue fd first rest = first := by
  rw [fieldValue, role]

theorem fieldValue_many (role : fd.role = .relationship edge related true) (first : Value)
    (rest : List Value) : fieldValue fd first rest = .list (first :: rest) := by
  rw [fieldValue, role]

end Related

namespace Catalog

variable {c : Catalog} {now : Float} {r related : EntityRef} {d : Descriptor} {f : Field}
  {fd : FieldDescriptor} {edge : Relationship} {many : Bool}

theorem exists_target_of_target {t : TypeExpr} {s : EntityRef}
    (h : c.target t = ⟨some (.entity s), many⟩) :
    ∃ q, t.target = ⟨some (.entity q), many⟩ ∧ c.resolve q = s := by
  unfold target at h
  split at h
  · next q many' leads =>
    obtain ⟨known, rfl⟩ := Target.mk.inj h
    split at known
    · exact ⟨q, leads, by simpa using known⟩
    · cases known
  · next elsewhere => exact absurd h (elsewhere s many)

theorem target_of_roleOf (h : c.roleOf f = .ok (.relationship edge related many)) :
    c.target f.type = ⟨some (.entity related), many⟩ := by
  unfold roleOf at h
  split at h
  · split at h
    · next target =>
      obtain ⟨-, rfl, rfl⟩ := Role.relationship.inj (Except.ok.inj h)
      exact target
    · cases h
  · split at h
    · cases h
    · split at h <;> cases h

/-- The type of a relationship field leads to the related type, and there may be several if a
collection is around it. -/
theorem exists_leads_of_describeRef (described : c.describeRef r = .ok d)
    (mem : (f, fd) ∈ (c.fieldsOf r).zip d.fields)
    (role : fd.role = .relationship edge related many) :
    ∃ q, c.resolve q = related ∧ TypeExpr.Leads q f.type.collections f.type ∧
      many = !f.type.collections.isEmpty := by
  have field := (List.forall₂_iff_zip.mp (fieldsOf_of_describeRef described)).2 mem
  obtain ⟨role', hr, rfl⟩ := map_eq_ok.mp field
  obtain rfl : role' = .relationship edge related many := role
  obtain ⟨q, target, resolved⟩ := exists_target_of_target (target_of_roleOf hr)
  obtain ⟨leads, several⟩ := f.type.leads_of_target target
  exact ⟨q, resolved, leads, several⟩

/-- A map of which an instance can be made by itself, and for which there is room inside another
instance, is accepted there, whenever that is. -/
theorem exists_readingAt_of_construct {q : EntityRef} {m : Entries} {earlier : Float} {e : Value}
    {n : Nesting} {depth : Value → Nat} (made : c.construct earlier (c.resolve q) m = .ok e)
    (within : (Value.map m).Within (Nesting.limit - 2)) (around : n.around ≤ 1)
    (enough : (Value.map m).depth ≤ depth (.map m)) (now : Float) :
    ∃ a, c.readingAt now depth n q (.map m) = .ok a := by
  have again : ∃ e, c.construct now (c.resolve q) m = .ok e := by
    have agree := c.construct_agree earlier now (c.resolve q) m
    rw [made] at agree
    cases again : c.construct now (c.resolve q) m with
    | error e => rw [again] at agree; cases agree
    | ok e => exact ⟨e, rfl⟩
  obtain ⟨e, again⟩ := again
  obtain ⟨-, -, n', inner, attributes, each, -⟩ := construct_eq_ok_iff.mp again
  have accepted := acceptAt_map_eq_ok_iff.mpr ⟨n', inner, attributes, each, rfl⟩
  refine ⟨_, Eq.trans ?_ accepted⟩
  have limit : Nesting.limit = 255 := rfl
  have shallow := within.depth_le
  have outermost : (c.nesting (c.resolve (c.resolve q))).around = 0 := rfl
  rw [readingAt, acceptAt, ← acceptEntity_resolve]
  exact acceptEntity_congr enough (Nat.le_refl _) (.inr ⟨by omega, by omega⟩) _ _ (Nat.le_refl _)

/-- An instance is not made of a map in which the value for a field is refused. -/
theorem construct_ne_ok_of_refused {entries : Entries} {name : String} {v e : Value}
    (mem : f ∈ c.fieldsOf r) (given : f.input? entries = some (name, v))
    (refused : ∀ asEntity a, f.accept asEntity v ≠ .ok a) :
    c.construct now r entries ≠ .ok e := by
  intro made
  obtain ⟨-, -, n, -, attributes, each, -⟩ := construct_eq_ok_iff.mp made
  obtain ⟨p, -, first, -⟩ := exists_of_mem_right (attributesOf_eq_ok_iff.mp each).flip mem
  rw [Field.made, given] at first
  exact refused _ _ (under_eq_ok_iff.mp first)

section

variable (described : c.describeRef r = .ok d) (mem : (f, fd) ∈ (c.fieldsOf r).zip d.fields)
  (role : fd.role = .relationship edge related many) {first : Entries} {rest : List Entries}
  {entries : Entries} {name : String}
  (found : f.input? entries = some (name, Related.fieldValue fd (.map first) (rest.map .map)))

include described mem role found

/-- With at most one collection in its type, and no set, a field accepts what is found through
it. -/
theorem exists_accept_of_flat (noSet : ∀ kind ∈ f.type.collections, kind.isSet = false)
    (flat : f.type.collections.length ≤ 1)
    (fit : ∀ m ∈ first :: rest, (Value.map m).Within (Nesting.limit - 2) ∧
      ∃ earlier e, c.construct earlier related m = .ok e) (now : Float) :
    ∃ n a, c.innerNesting? r = some n ∧
      f.type.accept (c.readingAt now (fun _ => Value.entriesDepth entries) n) {}
        (Related.fieldValue fd (.map first) (rest.map .map)) = .ok a := by
  obtain ⟨q, rfl, leads, several⟩ := exists_leads_of_describeRef described mem role
  obtain ⟨n, inner, around⟩ := Nesting.exists_inside? (n := c.nesting (c.resolve r))
    (Nat.zero_lt_succ 254) (c.resolve r)
  have shallow := Field.depth_le_of_input? found
  have accepted : ∀ m ∈ first :: rest, (Value.map m).depth ≤ Value.entriesDepth entries →
      ∃ a, c.readingAt now (fun _ => Value.entriesDepth entries) n q (.map m) = .ok a := by
    intro m hm enough
    obtain ⟨within, earlier, e, made⟩ := fit m hm
    exact exists_readingAt_of_construct made within around enough now
  cases many with
  | false =>
    have none : f.type.collections = [] := by simpa using several.symm
    rw [Related.fieldValue_one role] at shallow ⊢
    obtain ⟨a, ha⟩ := accepted first List.mem_cons_self shallow
    exact ⟨n, a, inner, (leads.accept_eq none rfl).trans ha⟩
  | true =>
    have single : f.type.collections.length = 1 :=
      Nat.le_antisymm flat (List.length_pos_iff.mpr (by simpa using several.symm))
    rw [Related.fieldValue_many role] at shallow ⊢
    have each : ∀ v ∈ (first :: rest).map Value.map, v.isNull = false ∧
        ∃ a, c.readingAt now (fun _ => Value.entriesDepth entries) n q v = .ok a := by
      intro v hv
      have item := Value.depth_le_itemsDepth hv
      obtain ⟨m, hm, rfl⟩ := List.mem_map.mp hv
      exact ⟨rfl, accepted m hm (Nat.le_trans item (Nat.le_of_succ_le shallow))⟩
    obtain ⟨a, ha⟩ := leads.exists_accept_list single noSet each
    exact ⟨n, a, inner, ha⟩

/-- With one collection inside another in the type of a field, all gone through by validation,
nothing that is found through it can be loaded. -/
theorem construct_ne_ok_of_nested (looks : ∀ kind ∈ f.type.collections, kind ≠ .iterable)
    (nested : 1 < f.type.collections.length) (now : Float) (e : Value) :
    c.construct now r entries ≠ .ok e := by
  obtain ⟨q, -, leads, several⟩ := exists_leads_of_describeRef described mem role
  have some : f.type.collections ≠ [] := List.length_pos_iff.mp (Nat.lt_of_succ_lt nested)
  rw [List.isEmpty_eq_false_iff.mpr some] at several
  obtain rfl : many = true := several
  rw [Related.fieldValue_many role] at found
  refine construct_ne_ok_of_refused (List.of_mem_zip mem).1 found fun asEntity a accepted => ?_
  obtain ⟨b, accepted⟩ := TypeExpr.exists_accept_of_acceptWithin rfl accepted
  exact leads.accept_list_ne_ok nested looks first _ accepted

end

/-- **What is found through a relationship field can be loaded, unless collections are nested in
its type.** Take a described type, a relationship field of it, and some maps, at least one, that
can each be made into an instance of the related type, with room for one more instance around it.
Let them be given for the field as a lookup stores them.

* With at most one collection in the type of the field, and no set, the type accepts them.
* With one collection inside another, all being gone through by validation, no instance is made. -/
theorem loads_unless_nested (described : c.describeRef r = .ok d)
    (mem : (f, fd) ∈ (c.fieldsOf r).zip d.fields)
    (role : fd.role = .relationship edge related many) {first : Entries} {rest : List Entries}
    (fit : ∀ m ∈ first :: rest, (Value.map m).Within (Nesting.limit - 2) ∧
      ∃ earlier e, c.construct earlier related m = .ok e)
    {entries : Entries} {name : String}
    (found : f.input? entries =
      some (name, Related.fieldValue fd (.map first) (rest.map .map))) (now : Float) :
    ((∀ kind ∈ f.type.collections, kind.isSet = false) → f.type.collections.length ≤ 1 →
      ∃ n a, c.innerNesting? r = some n ∧
        f.type.accept (c.readingAt now (fun _ => Value.entriesDepth entries) n) {}
          (Related.fieldValue fd (.map first) (rest.map .map)) = .ok a) ∧
    ((∀ kind ∈ f.type.collections, kind ≠ .iterable) → 1 < f.type.collections.length →
      ∀ e, c.construct now r entries ≠ .ok e) :=
  ⟨fun noSet flat => exists_accept_of_flat described mem role found noSet flat fit now,
    fun looks nested => construct_ne_ok_of_nested described mem role found looks nested now⟩

end Catalog

namespace Example

/-- Posts, with nothing of their own. -/
def post : EntityType :=
  { number := 0, name := "Post", label := .text "Post", fields := baseFields }

/-- The field of walls that holds the posts they show, of some type. -/
def shows (posts : TypeExpr) : Field :=
  { name := "posts", type := posts, default := .emptyList,
    marks := [.relationship ⟨⟨"SHOWS", by decide⟩, .outgoing⟩] }

/-- Walls show posts. -/
def wall (posts : TypeExpr) : EntityType :=
  { number := 1, name := "Wall", label := .text "Wall", fields := baseFields ++ [shows posts] }

/-- The catalog of posts and walls. -/
def walls (posts : TypeExpr) : Catalog := ⟨[post, wall posts]⟩

/-- What is known of a post. -/
def somePost : Entries := [(.text "Uuid", .text "p1")]

/-- A list of posts. -/
def listOfPosts : TypeExpr := .collection .list (.entity post.ref)

/-- A list of lists of posts. -/
def listsOfPosts : TypeExpr := .collection .list listOfPosts

/-- The descriptor of the field. -/
def describedShows : FieldDescriptor :=
  { name := "posts", key := "posts", frozen := false
    role := .relationship ⟨⟨"SHOWS", by decide⟩, .outgoing⟩ post.ref true }

/-- A wall that shows a post, as a read puts it together. -/
def someWall : Entries :=
  [(.text "Uuid", .text "w1"),
    (.text "posts", Related.fieldValue describedShows (.map somePost) [])]

/-- Walls with lists of posts, and with lists of lists of them, are described alike. -/
theorem describeRef_walls {posts : TypeExpr} (h : posts = listOfPosts ∨ posts = listsOfPosts) :
    ∃ d, (walls posts).describeRef (wall posts).ref = .ok d ∧
      (shows posts, describedShows) ∈ ((walls posts).fieldsOf (wall posts).ref).zip d.fields := by
  rcases h with rfl | rfl <;> exact ⟨_, rfl, List.mem_of_getElem? (i := 4) rfl⟩

/-- A post can be made of what is known of it. -/
theorem construct_somePost (posts : TypeExpr) (now : Float) :
    ∃ e, (walls posts).construct now post.ref somePost = .ok e := ⟨_, rfl⟩

/-- What the field is given is what a lookup stores for it. -/
theorem input?_someWall (posts : TypeExpr) : (shows posts).input? someWall =
    some ("posts", Related.fieldValue describedShows (.map somePost)
      (([] : List Entries).map Value.map)) := rfl

end Example

namespace Catalog

/-- A wall with a list of posts can be loaded with the post it shows, one with lists of posts
cannot. -/
theorem loads_unless_nested_walls :
    (∃ n a, (Example.walls Example.listOfPosts).innerNesting?
        (Example.wall Example.listOfPosts).ref = some n ∧
      Example.listOfPosts.accept ((Example.walls Example.listOfPosts).readingAt 0
        (fun _ => Value.entriesDepth Example.someWall) n) {}
          (Related.fieldValue Example.describedShows (.map Example.somePost) []) = .ok a) ∧
    ∀ e, (Example.walls Example.listsOfPosts).construct 0 (Example.wall Example.listsOfPosts).ref
      Example.someWall ≠ .ok e := by
  have fit (posts : TypeExpr) : ∀ m ∈ [Example.somePost],
      (Value.map m).Within (Nesting.limit - 2) ∧
        ∃ earlier e, (Example.walls posts).construct earlier Example.post.ref m = .ok e := by
    intro m hm
    obtain rfl := List.mem_singleton.mp hm
    exact ⟨⟨by decide, rfl⟩, 0, Example.construct_somePost posts 0⟩
  obtain ⟨d, described, mem⟩ := Example.describeRef_walls (.inl rfl)
  obtain ⟨d', described', mem'⟩ := Example.describeRef_walls (.inr rfl)
  have loads := loads_unless_nested described mem rfl (fit _) (Example.input?_someWall _) 0
  have never := loads_unless_nested described' mem' rfl (fit _) (Example.input?_someWall _) 0
  exact ⟨loads.1 (by decide) (by decide), never.2 (by decide) (by decide)⟩

/-- **Not all that is described can be loaded**: what is found for lists of lists of posts is not
accepted. -/
theorem not_loads_nested :
    ¬ ∀ (c : Catalog) (r related : EntityRef) (d : Descriptor) (f : Field) (fd : FieldDescriptor)
      (edge : Relationship) (many : Bool) (first : Entries) (rest : List Entries)
      (entries : Entries) (name : String) (now : Float),
      c.describeRef r = .ok d → (f, fd) ∈ (c.fieldsOf r).zip d.fields →
      fd.role = .relationship edge related many →
      (∀ m ∈ first :: rest, ∃ e, c.construct now related m = .ok e) →
      f.input? entries =
        some (name, Related.fieldValue fd (.map first) (rest.map .map)) →
      ∃ n a, c.innerNesting? r = some n ∧
        f.type.accept (c.readingAt now (fun _ => Value.entriesDepth entries) n) {}
          (Related.fieldValue fd (.map first) (rest.map .map)) = .ok a := by
  intro h
  obtain ⟨d, described, mem⟩ := Example.describeRef_walls (.inr rfl)
  obtain ⟨n, a, inner, accepted⟩ := h (Example.walls Example.listsOfPosts)
    (Example.wall Example.listsOfPosts).ref Example.post.ref d (Example.shows Example.listsOfPosts)
    Example.describedShows _ _ Example.somePost _ Example.someWall _ 0 described mem rfl
    (by simpa using Example.construct_somePost _ 0) (Example.input?_someWall _)
  cases accepted

end Catalog

end GraphMapper
