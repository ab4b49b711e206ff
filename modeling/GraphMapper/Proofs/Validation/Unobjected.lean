import GraphMapper.Proofs.Validation.Stability

/-!
# Validating again without bounds

Not every type gives again what it made: a union may take it for something else. But what it made
fits the member that made it, so there is always a member that accepts it. Without bounds, then,
nothing is said against a value that was validated before
(`GraphMapper.TypeExpr.StableSets.unobjected_acceptWithin`): it is accepted, if perhaps as another
value, or the validation ends because something cannot be compared, such as a value inside an
instance with its bound there.

With bounds this is not so, since the other value may be a shorter one. Nor is it so for the items
of a set, since the other value may be one that cannot be in a set; so these have to be of a stable
type (`GraphMapper.TypeExpr.StableSets`).

* `GraphMapper.Checked.Unobjected`: an outcome that lists no issues.
* `GraphMapper.UnobjectedAgain`: what one reading makes, another has no issues with.
-/

namespace GraphMapper

open Checked Outcome

/-! ### Outcomes without issues -/

namespace Checked

variable {α β : Type}

/-- No issues are listed: something is read, or it cannot be compared. -/
def Unobjected (c : Checked α) : Prop := ∀ found, c ≠ .error (.issues found)

theorem unobjected_ok (a : α) : Unobjected (.ok a) := fun _ => nofun

theorem unobjected_incomparable : Unobjected (.error .incomparable : Checked α) := fun _ => nofun

/-- Something is read, or it cannot be compared. -/
theorem Unobjected.cases {c : Checked α} (h : c.Unobjected) :
    (∃ a, c = .ok a) ∨ c = .error .incomparable := by
  rcases c with (found | _) | a
  · exact absurd rfl (h found)
  · exact .inr rfl
  · exact .inl ⟨a, rfl⟩

theorem Gives.unobjected {a : Accepted} {c : Checked Accepted} (h : Gives a c) :
    c.Unobjected := by
  obtain ⟨a', rfl, -⟩ := h
  exact unobjected_ok a'

theorem Unobjected.under {c : Checked α} (h : c.Unobjected) (step : Step) :
    (c.under step).Unobjected := by
  rcases h.cases with ⟨a, rfl⟩ | rfl
  · exact unobjected_ok a
  · exact unobjected_incomparable

theorem Unobjected.map {c : Checked α} (h : c.Unobjected) (f : α → β) :
    Unobjected (c.map f : Checked β) := by
  rcases h.cases with ⟨a, rfl⟩ | rfl
  · exact unobjected_ok (f a)
  · exact unobjected_incomparable

theorem Unobjected.bind {c : Checked α} {f : α → Checked β} (h : c.Unobjected)
    (hf : ∀ a, (f a).Unobjected) : Unobjected (c >>= f) := by
  rcases h.cases with ⟨a, rfl⟩ | rfl
  · exact hf a
  · exact unobjected_incomparable

theorem Unobjected.both {c : Checked α} {d : Checked β} (hc : c.Unobjected) (hd : d.Unobjected) :
    (both c d).Unobjected := by
  rcases hc.cases with ⟨a, rfl⟩ | rfl <;> rcases hd.cases with ⟨b, rfl⟩ | rfl
  · exact unobjected_ok (a, b)
  all_goals exact unobjected_incomparable

/-- All outcomes together list no issues if none does. -/
theorem unobjected_gather {cs : List (Checked α)} (h : ∀ c ∈ cs, c.Unobjected) :
    (gather cs).Unobjected := by
  induction cs with
  | nil => exact unobjected_ok []
  | cons c rest ih =>
    obtain ⟨first, others⟩ := List.forall_mem_cons.mp h
    exact (first.both (ih others)).map _

end Checked

/-- **Something is chosen if one member has no issues**, unless there is no comparing. -/
theorem unobjected_choose {outcomes : List (String × Checked Accepted)} {best : Option Accepted}
    {found : List Issue}
    (there : best.isSome = true ∨ ∃ o ∈ outcomes, o.2.Unobjected) :
    (choose best found outcomes).Unobjected := by
  induction outcomes generalizing best found with
  | nil =>
    cases best with
    | none => simp at there
    | some a => exact unobjected_ok a
  | cons o rest ih =>
    obtain ⟨name, outcome⟩ := o
    rw [choose]
    rcases outcome with (more | _) | a
    · refine ih (there.imp_right ?_)
      rintro ⟨o, ho, clear⟩
      rcases List.mem_cons.mp ho with rfl | ho
      · exact absurd rfl (clear more)
      · exact ⟨o, ho, clear⟩
    · exact unobjected_incomparable
    · rw [under_ok]
      dsimp only
      split
      · exact unobjected_ok a
      · exact ih (.inl rfl)

namespace TypeExpr

theorem unobjected_ofOutcomes {outcomes : List (String × Checked Accepted)}
    (there : ∃ o ∈ outcomes, o.2.Unobjected) : (ofOutcomes outcomes).Unobjected := by
  rcases ofOutcomes_cases outcomes with ⟨p, rfl, same⟩ | same
  · obtain ⟨o, ho, clear⟩ := there
    obtain rfl := List.mem_singleton.mp ho
    exact same ▸ clear
  · exact same ▸ unobjected_choose (.inr there)

end TypeExpr

/-- What one reading makes of any value, another has no issues with. -/
def UnobjectedAgain (item item' : Value → Checked Accepted) : Prop :=
  ∀ v a, item v = .ok a → (item' a.value).Unobjected

theorem GivesAgain.unobjectedAgain {item item' : Value → Checked Accepted}
    (h : GivesAgain item item') : UnobjectedAgain item item' :=
  fun v a made => (h v a made).unobjected

/-! ### Lists and maps -/

section

variable {b : Bounds} {item item' key key' value value' : Value → Checked Accepted}
  {items : List Value} {entries : Entries} {a : Accepted}

theorem unobjected_acceptItems (h : ∀ v ∈ items, (item v).Unobjected) :
    (acceptItems {} item items).Unobjected := by
  have each : (acceptEach item items).Unobjected := by
    refine unobjected_gather fun c hc => ?_
    obtain ⟨n, hn, rfl⟩ := List.mem_mapIdx.mp hc
    exact (h _ (List.getElem_mem hn)).under _
  exact each.bind fun as => unobjected_ok as

/-- An iterator is made of an iterator. -/
theorem CollectionKind.unobjected_iterable_again (itemType : TypeExpr) :
    UnobjectedAgain (CollectionKind.iterable.accept b itemType item)
      (CollectionKind.iterable.accept b itemType item') := by
  intro v a h
  rw [accept_iterable] at h
  split_ifs at h
  · obtain rfl := Except.ok.inj h
    exact unobjected_ok _
  · cases h

/-- **With a collection there are no issues if there are none with its items**, unless it is a
set. -/
theorem CollectionKind.unobjected_accept_again {kind : CollectionKind} (noSet : kind.isSet = false)
    (itemType : TypeExpr) (again : UnobjectedAgain item item') :
    UnobjectedAgain (kind.accept {} itemType item) (kind.accept {} itemType item') := by
  by_cases looks : kind = .iterable
  · subst looks
    exact unobjected_iterable_again itemType
  have all := keepsAll_of_noSet noSet looks
  intro v a h
  by_cases list : ∃ items, v = .list items
  · obtain ⟨items, rfl⟩ := list
    cases leaves : itemType.leavesItems && decide (kind.closeness = .exact) with
    | true =>
      rw [accept_list_of_leaves leaves] at h
      obtain rfl := acceptAnyItems_eq_ok h
      exact (accept_list_of_leaves leaves).trans h ▸ unobjected_ok _
    | false =>
      rw [accept_list all leaves] at h
      obtain ⟨as, made, rfl⟩ := map_eq_ok.mp h
      change (kind.accept {} itemType item' (.list (as.map (·.value)))).Unobjected
      rw [accept_list all leaves]
      refine (unobjected_acceptItems fun w hw => ?_).map _
      obtain ⟨a, ha, rfl⟩ := List.mem_map.mp hw
      obtain ⟨v, -, made⟩ := exists_of_mem_right (acceptItems_eq_ok_iff.mp made).1 ha
      exact again v a made
  · obtain ⟨-, rfl, left⟩ := eq_exactly_of_not_list looks list h
    exact left item' ▸ unobjected_ok _

/-- **With the entries of a map there are no issues if there are none with keys and values.** -/
theorem unobjected_acceptEntries_again (keys : UnobjectedAgain key key')
    (values : UnobjectedAgain value value') (h : acceptEntries b key value entries = .ok a) :
    ∃ made, a.value = .map made ∧ (acceptEntries {} key' value' made).Unobjected := by
  obtain ⟨made, same, -, -, parts⟩ := exists_map_of_acceptEntries h
    (P := fun k => (key' k).Unobjected) (Q := fun x => (value' x).Unobjected)
    (fun v k hk _ => keys v k hk) values
  refine ⟨made, same, Unobjected.bind (unobjected_gather fun c hc => ?_) fun accepted =>
    unobjected_ok _⟩
  obtain ⟨e, he, rfl⟩ := List.mem_map.mp hc
  have parts := ((parts e he).1.under (.key "[key]")).both (parts e he).2
  refine (parts.under e.1.step).bind fun p => Unobjected.bind ?_ fun k => unobjected_ok (k, p.2)
  unfold acceptKey
  split
  · exact unobjected_ok _
  · exact unobjected_incomparable

end

/-! ### Types -/

namespace TypeExpr

/-- Types in which the items of each set are of a stable type. -/
inductive StableSets : TypeExpr → Prop where
  /-- A plain type. -/
  | plain (p : PlainType) : StableSets (.plain p)
  /-- An entity type. -/
  | entity (r : EntityRef) : StableSets (.entity r)
  /-- An enumeration. -/
  | enumeration (name : String) (members : List (String × Value)) :
    StableSets (.enumeration name members)
  /-- A set of items of a stable type. -/
  | set {kind : CollectionKind} (isSet : kind.isSet = true) {item : TypeExpr} (h : Stable item) :
    StableSets (.collection kind item)
  /-- Any other collection. -/
  | collection {kind : CollectionKind} (noSet : kind.isSet = false) {item : TypeExpr}
    (h : StableSets item) : StableSets (.collection kind item)
  /-- A mapping. -/
  | mapping (kind : MappingKind) {key value : TypeExpr} (hk : StableSets key)
    (hv : StableSets value) : StableSets (.mapping kind key value)
  /-- A wrapper that does not say what is inside. -/
  | bare (kind : BareKind) : StableSets (.bare kind)
  /-- A union. -/
  | union (form : UnionForm) {members : List TypeExpr} (h : ∀ t ∈ members, StableSets t) :
    StableSets (.union form members)

variable {f g : EntityRef → Value → Checked Accepted} {t : TypeExpr}

/-- **No type has issues with what it made**, if there are no bounds and no sets but of stable
items. By induction on the type: in a union, the member that made a value has none with it. -/
theorem StableSets.unobjectedAgain (h : Recognises f g) (sets : t.StableSets) :
    UnobjectedAgain (t.accept f {}) (t.accept g {}) := by
  induction sets with
  | plain p => exact (p.givesAgain_accept {}).unobjectedAgain
  | entity r =>
    intro v a made
    rw [accept, h.again made]
    exact unobjected_ok _
  | enumeration name members => exact (givesAgain_acceptMember members).unobjectedAgain
  | @set kind isSet item stable =>
    have looks : kind ≠ .iterable := by
      rintro rfl
      cases isSet
    have inside := stable.givesAgain h {}
    rw [split_empty] at inside
    exact (CollectionKind.accept_again looks {} item inside).unobjectedAgain
  | collection noSet _ ih => exact CollectionKind.unobjected_accept_again noSet _ ih
  | mapping kind _ _ keys values =>
    intro v a made
    rw [accept] at made
    obtain ⟨entries, -, made⟩ := bind_eq_ok.mp made
    obtain ⟨entries', same, clear⟩ := unobjected_acceptEntries_again keys values made
    rw [same]
    exact clear
  | bare kind =>
    cases kind with
    | list => exact (PlainType.list.givesAgain_accept {}).unobjectedAgain
    | map => exact (PlainType.map.givesAgain_accept {}).unobjectedAgain
  | union form _ ih =>
    intro v a made
    rcases accept_union_cases made with ⟨-, ⟨t, ht, null⟩, rfl⟩ | ⟨t, ht, notNull, made⟩
    · exact accept_union_null ht null ▸ unobjected_ok _
    · have clear := ih t ht v a made
      rw [accept]
      split
      · exact unobjected_ok _
      · exact unobjected_ofOutcomes ⟨_, mem_acceptMembers_of_mem ht notNull, clear⟩

/-- Where there are no bounds, none are left either. -/
theorem acceptBounded_empty (f : EntityRef → Value → Checked Accepted) (t : TypeExpr) (v : Value) :
    t.acceptBounded f {} v = t.accept f {} v := by
  have split : ({} : Bounds).split t = ({}, {}) := by
    unfold Bounds.split
    split <;> rfl
  rw [acceptBounded, split]
  dsimp only
  cases t.accept f {} v <;> rfl

/-- A field without bounds has no issues with what it made. -/
theorem StableSets.unobjected_acceptWithin (h : Recognises f g) (sets : t.StableSets) :
    UnobjectedAgain (t.acceptWithin f {}) (t.acceptWithin g {}) := by
  have bounded {t : TypeExpr} (sets : t.StableSets) :
      UnobjectedAgain (t.acceptBounded f {}) (t.acceptBounded g {}) := by
    intro v a made
    rw [acceptBounded_empty] at made ⊢
    exact sets.unobjectedAgain h v a made
  have whole := bounded sets
  cases t with
  | union form members =>
    intro v a made
    rw [acceptWithin] at made ⊢
    split at made
    · next null =>
      obtain rfl := Except.ok.inj made
      exact if_pos null ▸ unobjected_ok _
    · split_ifs
      · exact unobjected_ok _
      · split at made
        · next t only =>
          have mem : t ∈ members := List.mem_of_mem_filter (only ▸ List.mem_singleton_self t)
          cases sets with
          | union _ each => exact bounded (each t mem) v a made
        · exact whole v a made
  | _ => exact whole

end TypeExpr

end GraphMapper
