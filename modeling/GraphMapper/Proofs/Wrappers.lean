import GraphMapper.Descriptor
import Mathlib.Data.List.Basic

/-!
# Wrappers around a type

A relationship field may hold one instance or several, and none. Its type expression says so by
wrappers around the entity type: collections, and unions with null. Descriptors take them off
(`GraphMapper.Catalog.target`), and this file says what that comes to, without a look at how it is
done. `GraphMapper.TypeExpr.Uncovers` says what is met on the way inwards, and the way ends at one
place only: at a type with a name (`GraphMapper.TypeExpr.Names`), or at something that bars the way
(`GraphMapper.TypeExpr.Bars`).

* `GraphMapper.TypeExpr.Expressible.formed`: what a declaration can write is **formed**. Unions in
  it have several members, all different, none of them a union.
* `GraphMapper.TypeExpr.Formed.exists_stop`: the way inwards ends where the descriptor says.
* `GraphMapper.TypeExpr.target_ofMembers_null`: one more null makes no difference.

The last needs an argument, since a union of a union and null is not a union around a union: the
members are put together, and nulls among them are one.
-/

namespace GraphMapper

/-! ### Lists without repetitions

Equality of type expressions is no identity: an enumeration is not even equal to itself. -/

namespace Distinct

variable {α : Type} [BEq α]

/-- What is left of a list when repetitions are removed, however items are compared. -/
theorem eraseDups_sublist (xs : List α) : xs.eraseDups.Sublist xs := by
  match xs with
  | [] => exact .slnil
  | x :: rest =>
    rw [List.eraseDups_cons]
    exact ((eraseDups_sublist _).trans List.filter_sublist).cons_cons x
termination_by xs.length
decreasing_by exact Nat.lt_succ_of_le (List.length_filter_le _ _)

/-- No item that is left is equal to one before it. -/
theorem pairwise_eraseDups (xs : List α) :
    xs.eraseDups.Pairwise fun a b => (b == a) = false := by
  match xs with
  | [] => exact .nil
  | x :: rest =>
    rw [List.eraseDups_cons]
    refine .cons (fun b hb => ?_) (pairwise_eraseDups _)
    simpa using (List.mem_filter.mp ((eraseDups_sublist _).mem hb)).2
termination_by xs.length
decreasing_by exact Nat.lt_succ_of_le (List.length_filter_le _ _)

/-- Nothing is removed for an item to which no other is equal. -/
theorem filter_of_apart {x : α} {rest : List α} (first : ∀ b ∈ rest, (b == x) = false) :
    (rest.filter fun b => !b == x) = rest := by
  rw [List.filter_eq_self]
  intro b hb
  rw [first b hb, Bool.not_false]

/-- A list in which no item is equal to one before it has no repetitions to remove. -/
theorem eraseDups_of_pairwise {xs : List α} (h : xs.Pairwise fun a b => (b == a) = false) :
    xs.eraseDups = xs := by
  induction h with
  | nil => rfl
  | cons first _ ih => rw [List.eraseDups_cons, filter_of_apart first, ih]

end Distinct

namespace TypeExpr

variable {c : Catalog} {t u : TypeExpr} {members : List TypeExpr} {form : UnionForm}

/-! ### Expressions that can be written -/

/-- Expressions that a declaration can write, in every way there is to write them. -/
inductive Expressible : TypeExpr → Prop where
  /-- A plain type. -/
  | plain (p : PlainType) : Expressible (.plain p)
  /-- An entity type. -/
  | entity (r : EntityRef) : Expressible (.entity r)
  /-- An enumeration. -/
  | enumeration (name : String) (values : List (String × Value)) :
    Expressible (.enumeration name values)
  /-- A wrapper that does not say what is inside. -/
  | bare (kind : BareKind) : Expressible (.bare kind)
  /-- A collection. -/
  | collection (kind : CollectionKind) {item : TypeExpr} (h : Expressible item) :
    Expressible (.collection kind item)
  /-- A mapping. -/
  | mapping (kind : MappingKind) {key value : TypeExpr} (hk : Expressible key)
    (hv : Expressible value) : Expressible (.mapping kind key value)
  /-- A type or null. -/
  | optional {t : TypeExpr} (h : Expressible t) : Expressible (optional t)
  /-- A union as a wrapper around some types. -/
  | wrapped {types : List TypeExpr} {t : TypeExpr} (h : ∀ t ∈ types, Expressible t)
    (made : wrapped? types = some t) : Expressible t
  /-- Some types with bars between. -/
  | barred {types : List TypeExpr} {t : TypeExpr} (h : ∀ t ∈ types, Expressible t)
    (made : barred? types = some t) : Expressible t

/-- Expressions in which every union has several members, which are no unions and of which none is
equal to one before it. -/
inductive Formed : TypeExpr → Prop where
  /-- A plain type. -/
  | plain (p : PlainType) : Formed (.plain p)
  /-- An entity type. -/
  | entity (r : EntityRef) : Formed (.entity r)
  /-- An enumeration. -/
  | enumeration (name : String) (values : List (String × Value)) :
    Formed (.enumeration name values)
  /-- A wrapper that does not say what is inside. -/
  | bare (kind : BareKind) : Formed (.bare kind)
  /-- A collection. -/
  | collection (kind : CollectionKind) {item : TypeExpr} (h : Formed item) :
    Formed (.collection kind item)
  /-- A mapping. -/
  | mapping (kind : MappingKind) {key value : TypeExpr} (hk : Formed key) (hv : Formed value) :
    Formed (.mapping kind key value)
  /-- A union. -/
  | union (form : UnionForm) {members : List TypeExpr} (several : 1 < members.length)
    (apart : members.Pairwise fun a b => (b == a) = false)
    (flat : ∀ t ∈ members, t.unionMembers = [t]) (h : ∀ t ∈ members, Formed t) :
    Formed (.union form members)

theorem eq_null_of_isNull (h : t.isNull = true) : t = .plain .null := by
  cases t with
  | plain p => cases p <;> first | rfl | cases h
  | _ => cases h

/-- Null is equal to null and to nothing else. -/
theorem null_beq (t : TypeExpr) : (plain .null == t) = t.isNull := by
  cases t with
  | plain p => cases p <;> rfl
  | _ => rfl

/-- What is no union brings itself into one. -/
theorem unionMembers_cases (t : TypeExpr) :
    t.unionMembers = [t] ∨ ∃ form members, t = .union form members := by
  cases t with
  | union form members => exact .inr ⟨form, members, rfl⟩
  | _ => exact .inl rfl

namespace Formed

/-- What an expression brings into a union: members that are no unions. -/
theorem parts (h : t.Formed) :
    t.unionMembers ≠ [] ∧ (t.unionMembers.Pairwise fun a b => (b == a) = false) ∧
      ∀ u ∈ t.unionMembers, u.Formed ∧ u.unionMembers = [u] := by
  rcases unionMembers_cases t with single | ⟨form, members, rfl⟩
  · rw [single]
    refine ⟨List.cons_ne_nil _ _, List.pairwise_singleton _ _, fun u hu => ?_⟩
    rw [List.mem_singleton.mp hu]
    exact ⟨h, single⟩
  · cases h with
    | union _ several apart flat formed =>
      exact ⟨List.ne_nil_of_length_pos (Nat.zero_lt_of_lt several), apart,
        fun u hu => ⟨formed u hu, flat u hu⟩⟩

/-- **A union of formed expressions is formed**, or is one of their members. -/
theorem ofMembers (form : UnionForm) {types : List TypeExpr} (some : types ≠ [])
    (h : ∀ t ∈ types, t.Formed) : (ofMembers form types).Formed := by
  have parts : ∀ u ∈ distinctMembers types, u.Formed ∧ u.unionMembers = [u] := by
    intro u hu
    obtain ⟨t, ht, hu⟩ := List.mem_flatMap.mp ((Distinct.eraseDups_sublist _).mem hu)
    exact (h t ht).parts.2.2 u hu
  have nonempty : distinctMembers types ≠ [] := by
    obtain ⟨t, rest, rfl⟩ := List.exists_cons_of_ne_nil some
    obtain ⟨u, others, brought⟩ :=
      List.exists_cons_of_ne_nil (h t List.mem_cons_self).parts.1
    rw [distinctMembers, List.flatMap_cons, brought, List.cons_append, List.eraseDups_cons]
    exact List.cons_ne_nil _ _
  rw [TypeExpr.ofMembers]
  split
  · next u single => exact (parts u (single ▸ List.mem_singleton_self u)).1
  · next several =>
    refine .union form ?_ (Distinct.pairwise_eraseDups _) (fun u hu => (parts u hu).2)
      fun u hu => (parts u hu).1
    have one : (distinctMembers types).length ≠ 1 := fun one => by
      obtain ⟨u, single⟩ := List.length_eq_one_iff.mp one
      exact several u single
    have := List.length_pos_of_ne_nil nonempty
    omega

theorem bar? {left right : TypeExpr} (hl : left.Formed) (hr : right.Formed)
    (h : TypeExpr.bar? left right = some t) : t.Formed := by
  have formed (form : UnionForm) : (TypeExpr.ofMembers form [left, right]).Formed :=
    ofMembers form (List.cons_ne_nil _ _) (by simpa using ⟨hl, hr⟩)
  unfold TypeExpr.bar? at h
  split_ifs at h
  · exact Option.some.inj h ▸ formed _
  · exact Option.some.inj h ▸ formed _

/-- Of the members of a formed union, one at least is not null. -/
theorem exists_other (h : (TypeExpr.union form members).Formed) :
    0 < countOthers members := by
  cases h with
  | union _ several apart _ _ =>
    rw [countOthers, List.countP_pos_iff]
    match members, several, apart with
    | a :: b :: rest, _, apart =>
      cases ha : a.isNull with
      | false => exact ⟨a, List.mem_cons_self, by simp [ha]⟩
      | true =>
        refine ⟨b, by simp, ?_⟩
        have other := (List.pairwise_cons.mp apart).1 b List.mem_cons_self
        rw [eq_null_of_isNull ha] at other
        cases hb : b.isNull with
        | false => rfl
        | true =>
          rw [eq_null_of_isNull hb, null_beq] at other
          cases other

end Formed

/-- **What a declaration can write is formed.** -/
theorem Expressible.formed (h : t.Expressible) : t.Formed := by
  induction h with
  | plain p => exact .plain p
  | entity r => exact .entity r
  | enumeration name values => exact .enumeration name values
  | bare kind => exact .bare kind
  | collection kind _ ih => exact .collection kind ih
  | mapping kind _ _ ihk ihv => exact .mapping kind ihk ihv
  | optional _ ih =>
    exact .ofMembers _ (List.cons_ne_nil _ _) (by simpa using ⟨ih, Formed.plain .null⟩)
  | wrapped _ made ih =>
    unfold wrapped? at made
    split at made
    · cases made
    · next some =>
      rw [← Option.some.inj made]
      exact .ofMembers _ (by simpa using some) ih
  | @barred types t _ made ih =>
    cases types with
    | nil => cases made
    | cons first rest =>
      -- Bars are read from the left: what stands before one is formed.
      obtain ⟨formed, others⟩ := List.forall_mem_cons.mp ih
      have each (rest : List TypeExpr) (hr : ∀ t ∈ rest, t.Formed) (left : TypeExpr)
          (formed : left.Formed) (made : rest.foldlM TypeExpr.bar? left = some t) : t.Formed := by
        induction rest generalizing left with
        | nil => exact Option.some.inj made ▸ formed
        | cons right rest ih =>
          obtain ⟨next, others⟩ := List.forall_mem_cons.mp hr
          rw [List.foldlM_cons] at made
          obtain ⟨joined, bar, made⟩ := Option.bind_eq_some_iff.mp made
          exact ih others joined (formed.bar? next bar) made
      exact each rest others first formed made

/-! ### The way inwards -/

/-- What is met when wrappers are taken off, one after the other: a union with exactly one member
other than null, and a collection. -/
inductive Uncovers : TypeExpr → TypeExpr → Prop where
  /-- The expression itself. -/
  | here (t : TypeExpr) : Uncovers t t
  /-- What is met from the only member of a union that is not null. -/
  | union (form : UnionForm) {members : List TypeExpr} {t u : TypeExpr}
    (only : members.filter (!·.isNull) = [t]) (h : Uncovers t u) : Uncovers (.union form members) u
  /-- What is met from the items of a collection. -/
  | collection (kind : CollectionKind) {item u : TypeExpr} (h : Uncovers item u) :
    Uncovers (.collection kind item) u

/-- The type that an expression names, without wrappers: a plain type, an enumeration or a declared
entity type. -/
inductive Names (c : Catalog) : TypeExpr → NamedType → Prop where
  /-- A plain type. -/
  | plain (p : PlainType) : Names c (.plain p) (.plain p)
  /-- An enumeration. -/
  | enumeration (name : String) (values : List (String × Value)) :
    Names c (.enumeration name values) (.enumeration name)
  /-- An entity type that is declared. -/
  | entity {r : EntityRef} (known : c.knows r = true) :
    Names c (.entity r) (.entity (c.resolve r))

/-- What bars the way inwards: a union with several members other than null, a mapping, a wrapper
that does not say what is inside, and a name that is not declared. -/
inductive Bars (c : Catalog) : TypeExpr → Prop where
  /-- A union with several members other than null. -/
  | union (form : UnionForm) {members : List TypeExpr} (several : 1 < countOthers members) :
    Bars c (.union form members)
  /-- A mapping. -/
  | mapping (kind : MappingKind) (key value : TypeExpr) : Bars c (.mapping kind key value)
  /-- A wrapper that does not say what is inside. -/
  | bare (kind : BareKind) : Bars c (.bare kind)
  /-- A name that is not declared. -/
  | entity {r : EntityRef} (unknown : c.knows r = false) : Bars c (.entity r)

/-- Whether an expression is a collection, of items that it may leave open. -/
def isCollection : TypeExpr → Bool
  | .collection _ _ | .bare .list => true
  | _ => false

/-- There is one way inwards. -/
theorem Uncovers.linear {v : TypeExpr} (hu : Uncovers t u) (hv : Uncovers t v) :
    Uncovers u v ∨ Uncovers v u := by
  induction hu with
  | here t => exact .inl hv
  | union form only hu ih =>
    cases hv with
    | here => exact .inr (.union form only hu)
    | union _ only' hv =>
      obtain rfl : _ = _ := List.singleton_inj.mp (only.symm.trans only')
      exact ih hv
  | collection kind hu ih =>
    cases hv with
    | here => exact .inr (.collection kind hu)
    | collection _ hv => exact ih hv

/-- The way ends at a name. -/
theorem Names.eq_of_uncovers {C : NamedType} (h : Names c t C) (hu : Uncovers t u) : u = t := by
  cases h <;> cases hu <;> rfl

/-- What has a name does not bar the way. -/
theorem Names.not_bars {C : NamedType} (h : Names c t C) : ¬Bars c t := by
  intro barred
  cases h with
  | entity known =>
    cases barred with
    | entity unknown =>
      rw [known] at unknown
      cases unknown
  | _ => cases barred

/-- The way ends where it is barred. -/
theorem Bars.eq_of_uncovers (h : Bars c t) (hu : Uncovers t u) : u = t := by
  cases h with
  | union form several =>
    cases hu with
    | here => rfl
    | union _ only _ =>
      rw [countOthers, List.countP_eq_length_filter, only] at several
      exact absurd several (Nat.lt_irrefl 1)
  | _ =>
    cases hu
    rfl

/-- Where the way inwards ends: at a type, or without one. -/
inductive Stops (c : Catalog) (u : TypeExpr) : Option NamedType → Prop where
  /-- At a type with a name. -/
  | names {C : NamedType} (h : Names c u C) : Stops c u (some C)
  /-- Where it is barred. -/
  | bars (h : Bars c u) : Stops c u none

theorem Stops.eq_of_uncovers {type? : Option NamedType} (h : Stops c t type?)
    (hu : Uncovers t u) : u = t := by
  cases h with
  | names h => exact h.eq_of_uncovers hu
  | bars h => exact h.eq_of_uncovers hu

/-- **The way inwards ends at one place.** -/
theorem Stops.unique {v : TypeExpr} {type? type?' : Option NamedType} (hu : Uncovers t u)
    (hv : Uncovers t v) (su : Stops c u type?) (sv : Stops c v type?') : type? = type?' := by
  obtain rfl : u = v := by
    rcases hu.linear hv with h | h
    · exact (su.eq_of_uncovers h).symm
    · exact sv.eq_of_uncovers h
  cases su with
  | names named =>
    cases sv with
    | names named' => cases named <;> cases named' <;> rfl
    | bars barred => exact absurd barred named.not_bars
  | bars barred =>
    cases sv with
    | names named => exact absurd barred named.not_bars
    | bars _ => rfl

/-! ### Taking wrappers off -/

theorem firstOther_eq (members : List TypeExpr) :
    firstOther members =
      ((members.filter (!·.isNull)).head?.map target).getD ⟨none, false⟩ := by
  induction members with
  | nil => rfl
  | cons t rest ih =>
    rw [firstOther]
    cases null : t.isNull with
    | true => simpa [null] using ih
    | false => simp [null]

/-- A union leads where its only member other than null does. -/
theorem target_union_only (only : members.filter (!·.isNull) = [t]) :
    (union form members).target = t.target := by
  have one : countOthers members = 1 := by
    rw [countOthers, List.countP_eq_length_filter, only]
    rfl
  rw [target, if_pos one, firstOther_eq, only]
  rfl

/-- A union with several members other than null leads nowhere. -/
theorem target_union_several (several : 1 < countOthers members) :
    (union form members).target = ⟨none, false⟩ := by
  rw [target, if_neg (by omega)]

/-- Where a union leads depends on its members other than null. -/
theorem target_union_congr {form' : UnionForm} {members' : List TypeExpr}
    (same : members.filter (!·.isNull) = members'.filter (!·.isNull)) :
    (union form members).target = (union form' members').target := by
  have count : countOthers members = countOthers members' := by
    simp only [countOthers, List.countP_eq_length_filter, same]
  rw [target, target, count, firstOther_eq, firstOther_eq, same]

end TypeExpr

namespace Catalog

open TypeExpr

variable {c : Catalog} {t u : TypeExpr}

theorem target_congr (h : t.target = u.target) : c.target t = c.target u := by
  rw [target, target, h]

/-- **A collection leads where its items do**, and there may be several. -/
theorem target_collection (kind : CollectionKind) (t : TypeExpr) :
    c.target (.collection kind t) = ⟨(c.target t).type?, true⟩ := by
  unfold target
  rw [TypeExpr.target]
  rcases t.target with ⟨_ | type, many⟩
  · rfl
  · cases type <;> rfl

theorem target_entity (r : EntityRef) : c.target (.entity r) =
    ⟨if c.knows r then some (.entity (c.resolve r)) else none, false⟩ := rfl

end Catalog

namespace TypeExpr

open Catalog

variable {c : Catalog} {t u : TypeExpr} {form : UnionForm} {members : List TypeExpr}

/-- **The way inwards ends where the descriptor says**, and there may be several if a collection is
met on it. By induction on the expression: each wrapper that is taken off is met first. -/
theorem Formed.exists_stop (c : Catalog) (h : t.Formed) :
    (∃ u, Uncovers t u ∧ Stops c u (c.target t).type?) ∧
      ((c.target t).many = true ↔ ∃ u, Uncovers t u ∧ u.isCollection = true) := by
  -- What is no wrapper that comes off is the end itself.
  have alone {t : TypeExpr} {type? : Option NamedType} {many : Bool}
      (target : c.target t = ⟨type?, many⟩) (stops : Stops c t type?)
      (collects : t.isCollection = many) :
      (∃ u, Uncovers t u ∧ Stops c u (c.target t).type?) ∧
        ((c.target t).many = true ↔ ∃ u, Uncovers t u ∧ u.isCollection = true) := by
    rw [target]
    refine ⟨⟨t, .here t, stops⟩, fun several => ⟨t, .here t, collects.trans several⟩, ?_⟩
    rintro ⟨u, hu, several⟩
    rw [stops.eq_of_uncovers hu] at several
    exact collects.symm.trans several
  induction h with
  | plain p => exact alone rfl (.names (.plain p)) rfl
  | enumeration name values => exact alone rfl (.names (.enumeration name values)) rfl
  | bare kind => cases kind <;> exact alone rfl (.bars (.bare _)) rfl
  | @mapping kind key value => exact alone rfl (.bars (.mapping kind key value)) rfl
  | entity r =>
    refine alone (target_entity r) ?_ rfl
    cases known : c.knows r with
    | true => exact .names (.entity known)
    | false => exact .bars (.entity known)
  | @collection kind item _ ih =>
    obtain ⟨⟨u, hu, stops⟩, -⟩ := ih
    rw [target_collection]
    exact ⟨⟨u, .collection kind hu, stops⟩,
      fun _ => ⟨.collection kind item, .here _, rfl⟩, fun _ => rfl⟩
  | @union form members several apart flat formed ih =>
    have other := (Formed.union form several apart flat formed).exists_other
    by_cases one : countOthers members = 1
    · obtain ⟨t, only⟩ := List.length_eq_one_iff.mp (List.countP_eq_length_filter.symm.trans one)
      have mem : t ∈ members := List.mem_of_mem_filter (only ▸ List.mem_singleton_self t)
      obtain ⟨⟨u, hu, stops⟩, many⟩ := ih t mem
      rw [target_congr (target_union_only only), many]
      refine ⟨⟨u, .union form only hu, stops⟩, ?_, ?_⟩
      · rintro ⟨w, hw, collects⟩
        exact ⟨w, .union form only hw, collects⟩
      · rintro ⟨w, hw, collects⟩
        cases hw with
        | here => cases collects
        | union _ only' hw =>
          obtain rfl : _ = _ := List.singleton_inj.mp (only.symm.trans only')
          exact ⟨w, hw, collects⟩
    · have blocked : 1 < countOthers members := by omega
      have nowhere : c.target (.union form members) = ⟨none, false⟩ := by
        unfold Catalog.target
        rw [target_union_several blocked]
      exact alone nowhere (.bars (.union form blocked)) rfl

/-! ### One more null -/

/-- The members of a union with null besides: null is added unless it is there. -/
theorem eraseDups_append_null (apart : members.Pairwise fun a b => (b == a) = false) :
    (members ++ [plain .null]).eraseDups =
      if members.any isNull then members else members ++ [plain .null] := by
  induction apart with
  | nil => rfl
  | @cons t rest first apart ih =>
    rw [List.cons_append, List.eraseDups_cons, List.filter_append, Distinct.filter_of_apart first,
      List.any_cons]
    cases null : t.isNull with
    | true =>
      have gone : (([plain .null] : List TypeExpr).filter fun b => !b == t) = [] := by
        simp [null_beq, null]
      rw [gone, List.append_nil, Distinct.eraseDups_of_pairwise apart]
      rfl
    | false =>
      have stays : (([plain .null] : List TypeExpr).filter fun b => !b == t) = [plain .null] := by
        simp [null_beq, null]
      rw [stays, ih, Bool.false_or]
      split <;> rfl

/-- **One more null makes no difference**: the members other than null stay the same. -/
theorem target_ofMembers_null (form : UnionForm) (h : t.Formed) :
    (ofMembers form [t, .plain .null]).target = t.target := by
  cases null : t.isNull with
  | true =>
    rw [eq_null_of_isNull null]
    rfl
  | false =>
  obtain ⟨-, apart, -⟩ := h.parts
  have all : distinctMembers [t, .plain .null] =
      if t.unionMembers.any isNull then t.unionMembers else t.unionMembers ++ [.plain .null] := by
    rw [distinctMembers, ← eraseDups_append_null apart]
    simp only [List.flatMap_cons, List.flatMap_nil, List.append_nil]
    rfl
  rcases unionMembers_cases t with single | ⟨form', members, rfl⟩
  · rw [single, List.any_cons, null] at all
    rw [ofMembers, all]
    refine target_union_only ?_
    rw [List.filter_cons_of_pos (by rw [null, Bool.not_false])]
    rfl
  · -- There are several members already.
    rw [unionMembers] at all
    have several : 1 < (distinctMembers [union form' members, .plain .null]).length := by
      cases h with
      | union _ several _ _ _ =>
        rw [all]
        split
        · exact several
        · rw [List.length_append]
          exact Nat.lt_add_right _ several
    rw [ofMembers]
    split
    · next single =>
      rw [single] at several
      exact absurd several (Nat.lt_irrefl 1)
    · refine target_union_congr ?_
      rw [all]
      split
      · rfl
      · rw [List.filter_append]
        exact List.append_nil _

theorem target_bar?_null (h : t.Formed) (made : bar? t (.plain .null) = some u) :
    u.target = t.target := by
  unfold bar? at made
  split_ifs at made
  · exact Option.some.inj made ▸ target_ofMembers_null _ h
  · exact Option.some.inj made ▸ target_ofMembers_null _ h

/-- **What wrappers come to.** For every expression that a declaration can write, the descriptor
finds the type that is named where the way inwards ends, and no type exactly if the way is barred;
and it finds that there may be several exactly if a collection is met on the way. So null makes no
difference, whichever way it is written, and a collection around an expression makes several of what
is inside. -/
theorem Expressible.target_iff (c : Catalog) (h : t.Expressible) :
    (∀ C, (c.target t).type? = some C ↔ ∃ u, Uncovers t u ∧ Names c u C) ∧
      ((c.target t).type? = none ↔ ∃ u, Uncovers t u ∧ Bars c u) ∧
      ((c.target t).many = true ↔ ∃ u, Uncovers t u ∧ u.isCollection = true) ∧
      c.target t.optional = c.target t ∧
      (∀ u, TypeExpr.bar? t (.plain .null) = some u → c.target u = c.target t) ∧
      ∀ kind, c.target (.collection kind t) = ⟨(c.target t).type?, true⟩ := by
  obtain ⟨⟨u, hu, stops⟩, several⟩ := h.formed.exists_stop c
  refine ⟨fun C => ⟨fun found => ?_, ?_⟩, ⟨fun missing => ?_, ?_⟩, several,
    target_congr (target_ofMembers_null _ h.formed),
    fun _ made => target_congr (target_bar?_null h.formed made),
    fun kind => target_collection kind t⟩
  · rw [found] at stops
    cases stops with
    | names named => exact ⟨u, hu, named⟩
  · rintro ⟨v, hv, named⟩
    exact Stops.unique hu hv stops (.names named)
  · rw [missing] at stops
    cases stops with
    | bars barred => exact ⟨u, hu, barred⟩
  · rintro ⟨v, hv, barred⟩
    exact Stops.unique hu hv stops (.bars barred)

/-- A list of instances, each of which may be missing, and which may be missing itself. -/
theorem target_iff_entities :
    (Catalog.target ⟨[]⟩ (.optional (.collection .list (.optional (.entity .base))))).type? =
        some (.entity .base) ∧
      (Catalog.target ⟨[]⟩ (.optional (.collection .list (.optional (.entity .base))))).many =
        true := by
  have item : Uncovers (.optional (.entity .base)) (.entity .base) := .union _ rfl (.here _)
  have items : Uncovers (.optional (.collection .list (.optional (.entity .base))))
      (.collection .list (.optional (.entity .base))) := .union _ rfl (.here _)
  obtain ⟨type, -, many, -⟩ := Expressible.target_iff ⟨[]⟩
    (.optional (.collection .list (.optional (.entity .base))))
  exact ⟨(type _).mpr ⟨_, .union _ rfl (.collection _ item), .entity rfl⟩,
    many.mpr ⟨_, items, rfl⟩⟩

end TypeExpr

end GraphMapper
