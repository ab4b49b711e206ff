import GraphMapper.Proofs.Assoc
import GraphMapper.Proofs.Validation.Choice

/-!
# Lists and maps, validated again

What becomes of a list is made of what becomes of its items, and what becomes of a map of what
becomes of its keys and values. Each comes with three facts: exactly when it is accepted
(`GraphMapper.acceptItems_eq_ok_iff`, `GraphMapper.acceptEntries_eq_ok_iff`), that nothing stands
against comparing if nothing does inside, and that it is given again if what is inside is
(`GraphMapper.acceptItems_again`, `GraphMapper.acceptEntries_again`).

A map is not just made entry by entry: where two keys become equal, the first key stays with the
last value. But what comes out is a map that keeps its keys apart, and such a map is made entry by
entry when it is validated again. A set is treated alike: it keeps its items apart
(`GraphMapper.Keepable`).
-/

namespace GraphMapper

open Checked Outcome

/-- What one reading makes of any value, another gives when it meets it. -/
def GivesAgain (item item' : Value → Checked Accepted) : Prop :=
  ∀ v a, item v = .ok a → Gives a (item' a.value)

/-- What one reading makes of any value fits another perfectly. -/
def FitsAgain (item item' : Value → Checked Accepted) : Prop :=
  ∀ v a, item v = .ok a → Fits a.value (item' a.value)

/-! ### Lists -/

section

variable {b : Bounds} {item item' : Value → Checked Accepted} {items : List Value}
  {as : List Accepted}

/-- All items are accepted exactly if each is. -/
theorem acceptEach_eq_ok_iff :
    acceptEach item items = .ok as ↔ List.Forall₂ (fun v a => item v = .ok a) items as := by
  have each (seen : Nat → Step) :
      gather (items.mapIdx fun n v => (item v).under (seen n)) = .ok as ↔
        List.Forall₂ (fun v a => item v = .ok a) items as := by
    rw [gather_eq_ok_iff]
    induction items generalizing as seen with
    | nil => cases as <;> simp
    | cons v rest ih =>
      cases as with
      | nil => simp
      | cons a as =>
        rw [List.mapIdx_cons, List.map_cons, List.cons.injEq, under_eq_ok_iff, List.forall₂_cons,
          ih fun n => seen (n + 1)]
  exact each fun n => .index n

theorem acceptEach_ne_incomparable (h : ∀ v ∈ items, item v ≠ .error .incomparable) :
    acceptEach item items ≠ .error .incomparable := by
  refine gather_ne_incomparable fun c hc => ?_
  obtain ⟨n, hn, rfl⟩ := List.mem_mapIdx.mp hc
  rw [Ne, under_eq_incomparable_iff]
  exact h _ (List.getElem_mem hn)

/-- Items are accepted exactly if each is and their number is within the bounds. -/
theorem acceptItems_eq_ok_iff : acceptItems b item items = .ok as ↔
    List.Forall₂ (fun v a => item v = .ok a) items as ∧ b.checkCount items.length = .ok () := by
  rw [← acceptEach_eq_ok_iff]
  unfold acceptItems
  split
  · next n many =>
    -- There are too many: the count is not within the bounds either.
    obtain ⟨longest, exceeded⟩ := Option.filter_eq_some_iff.mp many
    refine iff_of_false ?_ fun ⟨_, h⟩ => ?_
    · split <;> rintro ⟨⟩
    · rw [Bounds.checkCount, longest] at h
      split at h
      · cases h
      · rw [if_pos (by simpa using exceeded)] at h
        cases h
  · rw [bind_eq_ok]
    constructor
    · rintro ⟨as', each, h⟩
      obtain ⟨_, count, same⟩ := bind_eq_ok.mp h
      obtain rfl := pure_eq_ok.mp same
      rw [(acceptEach_eq_ok_iff.mp each).length_eq]
      exact ⟨each, count⟩
    · rintro ⟨each, count⟩
      refine ⟨as, each, bind_eq_ok.mpr ⟨(), ?_, rfl⟩⟩
      rw [← (acceptEach_eq_ok_iff.mp each).length_eq]
      exact count

theorem checkCount_ne_incomparable (b : Bounds) (n : Nat) :
    b.checkCount n ≠ .error .incomparable := by
  rw [Bounds.checkCount]
  split
  · rintro ⟨⟩
  · split <;> rintro ⟨⟩

theorem acceptItems_ne_incomparable (h : ∀ v ∈ items, item v ≠ .error .incomparable) :
    acceptItems b item items ≠ .error .incomparable := by
  unfold acceptItems
  split
  · next n _ =>
    have first : acceptEach item (items.take (n + 1)) ≠ .error .incomparable :=
      acceptEach_ne_incomparable fun v hv => h v (List.mem_of_mem_take hv)
    split
    · next stop => exact absurd stop first
    · rintro ⟨⟩
  · exact bind_ne_incomparable (acceptEach_ne_incomparable h) fun as _ =>
      bind_ne_incomparable (checkCount_ne_incomparable b _) fun _ _ => by rintro ⟨⟩

/-- **What is made of the items is given again.** -/
theorem acceptItems_again (again : GivesAgain item item') (h : acceptItems b item items = .ok as)
    (kind : CollectionKind) :
    Gives (kind.collect as) ((acceptItems b item' (as.map (·.value))).map kind.collect) := by
  obtain ⟨each, count⟩ := acceptItems_eq_ok_iff.mp h
  rw [each.length_eq] at count
  have gives : ∃ as', List.Forall₂ (fun v a => item' v = .ok a) (as.map (·.value)) as' ∧
      as'.map (·.value) = as.map (·.value) ∧ as'.all (·.isKey) = as.all (·.isKey) := by
    clear h count
    induction each with
    | nil => exact ⟨[], .nil, rfl, rfl⟩
    | @cons v a _ _ first _ ih =>
      obtain ⟨a', ha, value, isKey⟩ := again v a first
      obtain ⟨as', has, values, keys⟩ := ih
      exact ⟨a' :: as', .cons ha has, by rw [List.map_cons, List.map_cons, value, values],
        by rw [List.all_cons, List.all_cons, isKey, keys]⟩
  obtain ⟨as', each', values, keys⟩ := gives
  refine ⟨kind.collect as', ?_, congrArg Value.list values, ?_⟩
  · rw [acceptItems_eq_ok_iff.mpr ⟨each', by rwa [List.length_map]⟩]
    rfl
  · rw [kind.isKey_collect, kind.isKey_collect, keys]

end

/-! ### Sets -/

/-- What may be kept of the items of a set: values that are different, of some property each, and
not too many of them. -/
structure Keepable (longest : Option Nat) (P : Value → Prop) (kept : List Value) : Prop where
  /-- They are different. -/
  apart : kept.Pairwise fun v w => (v == w) = false
  /-- Each has the property. -/
  each : ∀ v ∈ kept, P v
  /-- There are not too many of them. -/
  few : longest.any (· < kept.length) = false

section

variable {longest : Option Nat} {P : Value → Prop} {item item' : Value → Checked Accepted}
  {kept items made : List Value} {found : List Issue} {n : Nat} {b : Bounds} {frozen : Bool}
  {a : Accepted} {v : Value}

theorem Keepable.nil : Keepable longest P [] := ⟨.nil, nofun, by cases longest <;> rfl⟩

/-- One more item is kept only if it is different. -/
theorem Keepable.adjoin (h : Keepable longest P kept) (hv : P v)
    (few : longest.any (· < (GraphMapper.adjoin kept v).length) = false) :
    Keepable longest P (GraphMapper.adjoin kept v) := by
  unfold GraphMapper.adjoin at few ⊢
  split_ifs at few ⊢ with there
  · exact h
  · refine ⟨List.pairwise_append.mpr ⟨h.apart, List.pairwise_singleton _ _, ?_⟩, ?_, few⟩
    · simpa using there
    · simpa [or_imp, forall_and] using ⟨h.each, hv⟩

/-- **The items of a set are kept apart.** -/
theorem keepable_of_acceptDistinct (start : Keepable longest P kept)
    (keys : ∀ v a, item v = .ok a → a.isKey = true → P a.value)
    (h : acceptDistinct longest item n kept found items = .ok made) : Keepable longest P made := by
  induction items generalizing n kept found with
  | nil =>
    rw [acceptDistinct] at h
    split_ifs at h
    exact Except.ok.inj h ▸ start
  | cons v rest ih =>
    rw [acceptDistinct] at h
    cases accepted : item v with
    | error r =>
      rw [accepted] at h
      cases r with
      | issues more => exact ih start h
      | incomparable => cases h
    | ok a =>
      rw [accepted, under_ok] at h
      dsimp only at h
      split_ifs at h with key many
      · cases h
      · exact ih (start.adjoin (keys v a accepted key) (by simpa using many)) h
      · exact ih start h

/-- Where there are issues already, no set is made. -/
theorem acceptDistinct_ne_ok (some : found ≠ []) :
    acceptDistinct longest item n kept found items ≠ .ok made := by
  induction items generalizing n kept found with
  | nil => simp [acceptDistinct, some]
  | cons v rest ih =>
    have more (others : List Issue) : found ++ others ≠ [] :=
      List.append_ne_nil_of_left_ne_nil some others
    rw [acceptDistinct]
    split
    · rintro ⟨⟩
    · exact ih (more _)
    · split_ifs
      · rintro ⟨⟩
      · exact ih some
      · exact ih (more _)

/-- No set is made of items of which the first is refused. -/
theorem acceptSet_ne_ok (refuses : Refuses (item v)) :
    acceptSet b frozen item (v :: items) ≠ .ok a := by
  intro h
  obtain ⟨found, some, refused⟩ := refuses
  obtain ⟨kept, made, -⟩ := bind_eq_ok.mp h
  rw [acceptDistinct, refused] at made
  refine acceptDistinct_ne_ok ?_ made
  simpa using some

/-- **Items that are kept apart, and each given, are given as they are.** -/
theorem acceptDistinct_of_keepable
    (h : Keepable longest (fun v => ∃ a, item v = .ok a ∧ a.value = v ∧ a.isKey = true)
      (kept ++ items)) :
    acceptDistinct longest item n kept [] items = .ok (kept ++ items) := by
  induction items generalizing n kept with
  | nil => rw [acceptDistinct, List.append_nil]; rfl
  | cons v rest ih =>
    obtain ⟨a, accepted, rfl, key⟩ := h.each v (List.mem_append_right _ List.mem_cons_self)
    have new : adjoin kept a.value = kept ++ [a.value] := by
      refine if_neg ?_
      have apart := (List.pairwise_append.mp h.apart).2.2
      simpa using fun w hw => apart w hw a.value List.mem_cons_self
    have few : longest.any (· < (kept ++ [a.value]).length) = false := by
      have few := h.few
      cases longest with
      | none => rfl
      | some m =>
        simp only [Option.any_some, List.length_append, List.length_cons,
          decide_eq_false_iff_not] at few ⊢
        simp only [List.length_nil]
        omega
    rw [List.append_cons] at h ⊢
    rw [acceptDistinct, accepted, under_ok]
    dsimp only
    rw [if_pos key, new, few, if_neg Bool.false_ne_true]
    exact ih h

/-- **What is made of a set is given again.** -/
theorem acceptSet_again (gives : GivesAgain item item')
    (h : acceptSet b frozen item items = .ok a) :
    ∃ kept, a.value = .list kept ∧ Gives a (acceptSet b frozen item' kept) := by
  obtain ⟨kept, made, h⟩ := bind_eq_ok.mp h
  obtain ⟨_, count, same⟩ := bind_eq_ok.mp h
  obtain rfl := pure_eq_ok.mp same
  have keepable := keepable_of_acceptDistinct Keepable.nil (P := fun v =>
    ∃ a, item' v = .ok a ∧ a.value = v ∧ a.isKey = true) (fun v a accepted key => by
      obtain ⟨a', accepted', value, isKey⟩ := gives v a accepted
      exact ⟨a', accepted', value, isKey.trans key⟩) made
  have again : acceptDistinct b.longest? item' 0 [] [] kept = .ok ([] ++ kept) :=
    acceptDistinct_of_keepable keepable
  exact ⟨kept, rfl, _, bind_eq_ok.mpr ⟨kept, again, bind_eq_ok.mpr ⟨(), count, rfl⟩⟩, rfl, rfl⟩

end

/-- Items that fit are made as they are. -/
theorem exists_of_fits {item : Value → Checked Accepted} {items : List Value}
    (h : ∀ v ∈ items, Fits v (item v)) :
    ∃ as, List.Forall₂ (fun v a => item v = .ok a) items as ∧ as.map (·.value) = items := by
  induction items with
  | nil => exact ⟨[], .nil, rfl⟩
  | cons v rest ih =>
    obtain ⟨⟨a, accepted, value, -⟩, others⟩ := List.forall_mem_cons.mp h
    obtain ⟨as, each, values⟩ := ih others
    exact ⟨a :: as, .cons accepted each, by rw [List.map_cons, value, values]⟩

/-! ### Collections -/

namespace CollectionKind

variable {kind : CollectionKind} {b : Bounds} {itemType : TypeExpr}
  {item item' : Value → Checked Accepted} {items : List Value} {v : Value} {a : Accepted}

/-- Whether collections of a kind are lists of all that they are read from. -/
def keepsAll : CollectionKind → Bool
  | .set | .frozenSet | .iterable => false
  | _ => true

theorem keepsAll_of_noSet (noSet : kind.isSet = false) (looks : kind ≠ .iterable) :
    kind.keepsAll = true := by
  cases kind <;> first | rfl | exact absurd rfl looks | cases noSet

theorem keepsAll_of_exact (exact : kind.closeness = .exact) : kind.keepsAll = true := by
  cases kind <;> first | rfl | cases exact

theorem ne_iterable_of_exact (exact : kind.closeness = .exact) : kind ≠ .iterable := by
  rintro rfl
  cases exact

/-- What is to be gone through one by one is not looked into. -/
theorem accept_iterable :
    CollectionKind.iterable.accept b itemType item v =
      if v.isIterable then .ok (.exactly (.iterator v)) else complain .notIterable := rfl

/-- Sets are made of lists. -/
theorem accept_set (isSet : kind.isSet = true) : kind.accept b itemType item v =
    v.readList kind.complaint >>= acceptSet b (kind = .frozenSet) item := by
  cases kind <;> first | rfl | cases isSet

theorem isPerfect_collect (as : List Accepted) : (kind.collect as).fit.isPerfect = true ↔
    kind.closeness = .exact ∧ ∀ a ∈ as, a.fit.isPerfect = true := by
  simp [collect, Fit.isPerfect_atMost, Fit.isPerfect_all, and_comm]

/-- Items that do not matter are left alone. -/
theorem accept_list_of_leaves
    (h : (itemType.leavesItems && decide (kind.closeness = .exact)) = true) :
    kind.accept b itemType item (.list items) = acceptAnyItems b items := by
  obtain ⟨leaves, exact⟩ := Bool.and_eq_true_iff.mp h
  cases kind
  case set | frozenSet | iterable | tuple => cases of_decide_eq_true exact
  all_goals simp [accept, Value.readList, Value.readSequence, leaves, closeness, isSet, bind,
    Except.bind]

/-- Items that matter are collected. -/
theorem accept_list (all : kind.keepsAll = true)
    (h : (itemType.leavesItems && decide (kind.closeness = .exact)) = false) :
    kind.accept b itemType item (.list items) = (acceptItems b item items).map kind.collect := by
  cases kind
  case set | frozenSet | iterable => cases all
  all_goals
    simp [accept, Value.readList, Value.readSequence, closeness, isSet, bind, Except.bind] at h ⊢
  all_goals simp [h, Except.map, pure, Except.pure]

/-- What is no list is refused, but for a text that is wanted as a sequence of anything. -/
theorem accept_of_not_list (looks : kind ≠ .iterable) (b : Bounds) (itemType : TypeExpr)
    (h : ∀ items, v ≠ .list items) :
    (∃ s, v = .text s ∧ ∀ item, kind.accept b itemType item v = .ok (.exactly v)) ∨
      ∀ item, Refuses (kind.accept b itemType item v) := by
  by_cases wanted : kind = .sequence ∧ itemType = .plain .anything ∧ ∃ s, v = .text s
  · obtain ⟨rfl, rfl, s, rfl⟩ := wanted
    exact .inl ⟨s, rfl, fun _ => rfl⟩
  · refine .inr fun item => ?_
    by_cases sequence : kind = .sequence
    · subst sequence
      rw [accept]
      · cases v with
        | list items => exact absurd rfl (h items)
        | _ => exact refuses_complain _
      · exact fun s anything text => wanted ⟨rfl, anything, s, text⟩
    · have read : v.readList kind.complaint = complain kind.complaint := by
        cases v with
        | list items => exact absurd rfl (h items)
        | _ => rfl
      rw [accept, read]
      · exact refuses_complain _
      · exact sequence
      · exact looks

/-- What is no list is accepted only if it is such a text, which is passed on. -/
theorem eq_exactly_of_not_list (looks : kind ≠ .iterable) (list : ¬∃ items, v = .list items)
    (h : kind.accept b itemType item v = .ok a) :
    (∃ s, v = .text s) ∧ a = .exactly v ∧ ∀ item, kind.accept b itemType item v = .ok a := by
  rcases accept_of_not_list looks b itemType (not_exists.mp list) with ⟨s, rfl, left⟩ | refuses
  · obtain rfl := Except.ok.inj ((left item).symm.trans h)
    exact ⟨⟨s, rfl⟩, rfl, left⟩
  · exact absurd h ((refuses item).ne_ok a)

theorem acceptAnyItems_eq_ok (h : acceptAnyItems b items = .ok a) : a = .exactly (.list items) := by
  obtain ⟨_, -, same⟩ := bind_eq_ok.mp h
  exact (pure_eq_ok.mp same).symm

/-- **A collection is given again if its items are.** -/
theorem accept_again (looks : kind ≠ .iterable) (b : Bounds) (itemType : TypeExpr)
    (again : GivesAgain item item') :
    GivesAgain (kind.accept b itemType item) (kind.accept b itemType item') := by
  intro v a h
  by_cases list : ∃ items, v = .list items
  · obtain ⟨items, rfl⟩ := list
    by_cases isSet : kind.isSet = true
    · rw [accept_set isSet] at h
      obtain ⟨kept, same, gives⟩ := acceptSet_again again h
      rw [accept_set isSet, same]
      exact gives
    have all := keepsAll_of_noSet (by simpa using isSet) looks
    cases leaves : itemType.leavesItems && decide (kind.closeness = .exact) with
    | true =>
      rw [accept_list_of_leaves leaves] at h
      obtain rfl := acceptAnyItems_eq_ok h
      exact ⟨_, (accept_list_of_leaves leaves).trans h, rfl, rfl⟩
    | false =>
      rw [accept_list all leaves] at h
      obtain ⟨as, made, rfl⟩ := map_eq_ok.mp h
      have gives := acceptItems_again again made kind
      rwa [← accept_list all leaves] at gives
  · obtain ⟨-, rfl, left⟩ := eq_exactly_of_not_list looks list h
    exact ⟨_, left item', rfl, rfl⟩

/-- A list of items that matter fits perfectly exactly if its items do, and it is wanted as a
list. -/
theorem isPerfect_accept (all : kind.keepsAll = true)
    (leaves : (itemType.leavesItems && decide (kind.closeness = .exact)) = false)
    (h : kind.accept b itemType item (.list items) = .ok a) : a.fit.isPerfect = true ↔
      kind.closeness = .exact ∧ ∀ v ∈ items, ∃ a, item v = .ok a ∧ a.fit.isPerfect = true := by
  rw [accept_list all leaves] at h
  obtain ⟨as, made, rfl⟩ := map_eq_ok.mp h
  rw [isPerfect_collect]
  refine and_congr_right fun _ => ?_
  obtain ⟨each, -⟩ := acceptItems_eq_ok_iff.mp made
  clear made h
  induction each with
  | nil => simp
  | cons first _ ih =>
    rw [List.forall_mem_cons, List.forall_mem_cons]
    refine and_congr ⟨fun perfect => ⟨_, first, perfect⟩, ?_⟩ ih
    rintro ⟨a, ha, perfect⟩
    obtain rfl := Except.ok.inj (first.symm.trans ha)
    exact perfect

/-- **A collection read as a list fits again if its items do.** -/
theorem fits_accept_again (b : Bounds) (exact : kind.closeness = .exact)
    (leaves : itemType.leavesItems = false) (again : FitsAgain item item') :
    FitsAgain (kind.accept b itemType item) (kind.accept b itemType item') := by
  have all := keepsAll_of_exact exact
  have matters : (itemType.leavesItems && decide (kind.closeness = .exact)) = false := by
    rw [leaves]; rfl
  intro v a h
  by_cases list : ∃ items, v = .list items
  · obtain ⟨items, rfl⟩ := list
    rw [accept_list all matters] at h
    obtain ⟨as, made, rfl⟩ := map_eq_ok.mp h
    obtain ⟨each, count⟩ := acceptItems_eq_ok_iff.mp made
    have fits : ∀ w ∈ as.map (·.value), Fits w (item' w) := by
      intro w hw
      obtain ⟨a, ha, rfl⟩ := List.mem_map.mp hw
      obtain ⟨v, -, made⟩ := exists_of_mem_right each ha
      exact again v a made
    obtain ⟨as', each', values⟩ := exists_of_fits fits
    rw [each.length_eq, ← List.length_map (·.value)] at count
    have made' :
        kind.accept b itemType item' (.list (as.map (·.value))) = .ok (kind.collect as') := by
      rw [accept_list all matters, acceptItems_eq_ok_iff.mpr ⟨each', count⟩]
      rfl
    refine ⟨_, made', congrArg Value.list values,
      (isPerfect_accept all matters made').mpr ⟨exact, fun w hw => ?_⟩⟩
    obtain ⟨a'', accepted, -, perfect⟩ := fits w hw
    exact ⟨a'', accepted, perfect⟩
  · obtain ⟨-, rfl, left⟩ := eq_exactly_of_not_list (ne_iterable_of_exact exact) list h
    exact ⟨_, left item', rfl, rfl⟩

/-- Where all items are calm, so is a collection read as a list. -/
theorem calm_accept (b : Bounds) (exact : kind.closeness = .exact)
    (leaves : itemType.leavesItems = false)
    (calm : ∀ items, v = .list items → ∀ w ∈ items, Calm w (item w)) :
    Calm v (kind.accept b itemType item v) := by
  by_cases list : ∃ items, v = .list items
  · obtain ⟨items, rfl⟩ := list
    replace calm := calm items rfl
    rw [accept_list (keepsAll_of_exact exact) (by rw [leaves]; rfl)]
    refine ⟨fun a h perfect => ?_, map_ne_incomparable (acceptItems_ne_incomparable fun w hw =>
      (calm w hw).comparable) _⟩
    obtain ⟨as, made, rfl⟩ := map_eq_ok.mp h
    replace perfect := ((isPerfect_collect as).mp perfect).2
    obtain ⟨each, -⟩ := acceptItems_eq_ok_iff.mp made
    refine congrArg Value.list ?_
    clear made h
    induction each with
    | nil => rfl
    | cons first _ ih =>
      obtain ⟨calm, calms⟩ := List.forall_mem_cons.mp calm
      obtain ⟨fits, all⟩ := List.forall_mem_cons.mp perfect
      rw [List.map_cons, calm.value _ first fits, ih calms all]
  · rcases accept_of_not_list (ne_iterable_of_exact exact) b itemType (not_exists.mp list) with
      ⟨s, rfl, left⟩ | refuses
    · rw [left item]
      exact (fits_exactly _).calm
    · exact (refuses item).calm v

end CollectionKind

/-! ### Maps -/

section

variable {b : Bounds} {key key' value value' : Value → Checked Accepted} {entries : Entries}
  {a : Accepted}

/-- An entry is accepted exactly if its key and its value are, and the key can be one. -/
theorem acceptEntry_eq_ok_iff {e : Value × Value} {p : Accepted × Accepted} :
    acceptEntry key value e = .ok p ↔
      key e.1 = .ok p.1 ∧ value e.2 = .ok p.2 ∧ p.1.isKey = true := by
  obtain ⟨k, x⟩ := p
  constructor
  · intro h
    obtain ⟨⟨k', x'⟩, parts, h⟩ := bind_eq_ok.mp h
    obtain ⟨made, values⟩ := both_eq_ok_iff.mp (under_eq_ok_iff.mp parts)
    obtain ⟨k'', kept, same⟩ := bind_eq_ok.mp h
    obtain ⟨rfl, rfl⟩ := Prod.mk.inj (pure_eq_ok.mp same)
    rw [acceptKey] at kept
    split at kept
    · next isKey =>
      obtain rfl := Except.ok.inj kept
      exact ⟨under_eq_ok_iff.mp made, values, isKey⟩
    · cases kept
  · rintro ⟨made, values, isKey⟩
    refine bind_eq_ok.mpr ⟨(k, x), under_eq_ok_iff.mpr ?_, bind_eq_ok.mpr ⟨k, if_pos isKey, rfl⟩⟩
    exact both_eq_ok_iff.mpr ⟨under_eq_ok_iff.mpr made, values⟩

theorem acceptEntry_ne_incomparable {e : Value × Value} (hk : key e.1 ≠ .error .incomparable)
    (keys : ∀ k, key e.1 = .ok k → k.isKey = true)
    (hv : value e.2 ≠ .error .incomparable) :
    acceptEntry key value e ≠ .error .incomparable := by
  refine bind_ne_incomparable ?_ fun p hp => bind_ne_incomparable ?_ fun _ _ => by rintro ⟨⟩
  · rw [Ne, under_eq_incomparable_iff]
    refine both_ne_incomparable ?_ hv
    rwa [Ne, under_eq_incomparable_iff]
  · obtain ⟨made, -⟩ := both_eq_ok_iff.mp (under_eq_ok_iff.mp hp)
    rw [acceptKey, if_pos (keys _ (under_eq_ok_iff.mp made))]
    rintro ⟨⟩

/-- The entries of a map that was made of accepted ones. -/
def madeOf (accepted : List (Accepted × Accepted)) : Entries :=
  Assoc.ofEntries (accepted.map fun e => (e.1.value, e.2.value))

/-- Entries are accepted exactly if each is and the number of those that are made of them is
within the bounds. -/
theorem acceptEntries_eq_ok_iff : acceptEntries b key value entries = .ok a ↔
    ∃ accepted, List.Forall₂ (fun e p => acceptEntry key value e = .ok p) entries accepted ∧
      b.checkCount (madeOf accepted).length = .ok () ∧
      a = { value := .map (madeOf accepted)
            fit := Fit.all (accepted.map fun e => e.1.fit.and e.2.fit) } := by
  unfold acceptEntries
  rw [bind_eq_ok]
  refine exists_congr fun accepted => ?_
  rw [gather_map_eq_ok_iff, bind_eq_ok]
  refine and_congr_right fun _ => ⟨?_, ?_⟩
  · rintro ⟨_, count, same⟩
    exact ⟨count, (pure_eq_ok.mp same).symm⟩
  · rintro ⟨count, rfl⟩
    exact ⟨(), count, rfl⟩

theorem acceptEntries_ne_incomparable
    (h : ∀ e ∈ entries, acceptEntry key value e ≠ .error .incomparable) :
    acceptEntries b key value entries ≠ .error .incomparable := by
  refine bind_ne_incomparable (gather_ne_incomparable fun c hc => ?_) fun _ _ =>
    bind_ne_incomparable (checkCount_ne_incomparable b _) fun _ _ => by rintro ⟨⟩
  obtain ⟨e, he, rfl⟩ := List.mem_map.mp hc
  exact h e he

/-- A map fits perfectly exactly if its keys and its values do. -/
theorem isPerfect_acceptEntries (h : acceptEntries b key value entries = .ok a) :
    a.fit.isPerfect = true ↔ ∀ e ∈ entries, ∃ k x, key e.1 = .ok k ∧ value e.2 = .ok x ∧
      k.fit.isPerfect = true ∧ x.fit.isPerfect = true := by
  obtain ⟨accepted, each, -, rfl⟩ := acceptEntries_eq_ok_iff.mp h
  have parts : (Fit.all (accepted.map fun e => e.1.fit.and e.2.fit)).isPerfect = true ↔
      ∀ p ∈ accepted, p.1.fit.isPerfect = true ∧ p.2.fit.isPerfect = true := by
    simp [Fit.isPerfect_all, Fit.isPerfect_and]
  rw [parts]
  clear parts h
  induction each with
  | nil => simp
  | @cons e p _ _ first _ ih =>
    obtain ⟨made, values, -⟩ := acceptEntry_eq_ok_iff.mp first
    rw [List.forall_mem_cons, List.forall_mem_cons]
    refine and_congr ⟨fun h => ⟨_, _, made, values, h⟩, ?_⟩ ih
    rintro ⟨k, x, hk, hx, perfect⟩
    obtain rfl := Except.ok.inj (made.symm.trans hk)
    obtain rfl := Except.ok.inj (values.symm.trans hx)
    exact perfect

/-- **Entries that are kept apart, and each made as it is, are made as they are.** -/
theorem exists_acceptEntries (apart : Assoc.Apart entries)
    (count : b.checkCount entries.length = .ok ())
    (each : ∀ e ∈ entries, (∃ k, key e.1 = .ok k ∧ k.value = e.1 ∧ k.isKey = true) ∧
      ∃ x, value e.2 = .ok x ∧ x.value = e.2) :
    ∃ a, acceptEntries b key value entries = .ok a ∧ a.value = .map entries := by
  have accepted : ∃ accepted,
      List.Forall₂ (fun e p => acceptEntry key value e = .ok p) entries accepted ∧
        accepted.map (fun p => (p.1.value, p.2.value)) = entries := by
    clear apart count
    induction entries with
    | nil => exact ⟨[], .nil, rfl⟩
    | cons e rest ih =>
      obtain ⟨⟨⟨k, hk, hke, isKey⟩, x, hx, hxe⟩, others⟩ := List.forall_mem_cons.mp each
      obtain ⟨accepted, all, same⟩ := ih others
      refine ⟨(k, x) :: accepted, .cons (acceptEntry_eq_ok_iff.mpr ⟨hk, hx, isKey⟩) all, ?_⟩
      rw [List.map_cons, same, hke, hxe]
  obtain ⟨accepted, all, same⟩ := accepted
  have made : madeOf accepted = entries := by
    rw [madeOf, same, Assoc.ofEntries_of_apart apart]
  refine ⟨_, acceptEntries_eq_ok_iff.mpr ⟨accepted, all, ?_, rfl⟩, congrArg Value.map made⟩
  rwa [made]

/-- A map is no key. -/
theorem isKey_of_acceptEntries (h : acceptEntries b key value entries = .ok a) :
    a.isKey = false := by
  obtain ⟨accepted, -, -, rfl⟩ := acceptEntries_eq_ok_iff.mp h
  rfl

/-- What is made of entries is a map that keeps its keys apart. Its keys are made of keys, and its
values of values. -/
theorem exists_map_of_acceptEntries {P Q : Value → Prop}
    (h : acceptEntries b key value entries = .ok a)
    (keys : ∀ v k, key v = .ok k → k.isKey = true → P k.value)
    (values : ∀ v x, value v = .ok x → Q x.value) :
    ∃ made, a.value = .map made ∧ Assoc.Apart made ∧ b.checkCount made.length = .ok () ∧
      ∀ e ∈ made, P e.1 ∧ Q e.2 := by
  obtain ⟨accepted, each, count, rfl⟩ := acceptEntries_eq_ok_iff.mp h
  refine ⟨madeOf accepted, rfl, Assoc.apart_ofEntries _, count, Assoc.forall_mem_ofEntries ?_⟩
  intro e he
  obtain ⟨p, hp, rfl⟩ := List.mem_map.mp he
  obtain ⟨e, -, accepted⟩ := exists_of_mem_right each hp
  obtain ⟨made, valued, isKey⟩ := acceptEntry_eq_ok_iff.mp accepted
  exact ⟨keys _ _ made isKey, values _ _ valued⟩

/-- **What is made of the entries is given again.** -/
theorem acceptEntries_again (keys : GivesAgain key key') (values : GivesAgain value value')
    (h : acceptEntries b key value entries = .ok a) :
    ∃ made, a.value = .map made ∧ Gives a (acceptEntries b key' value' made) := by
  obtain ⟨made, same, apart, count, each⟩ := exists_map_of_acceptEntries h
    (P := fun w => ∃ k, key' w = .ok k ∧ k.value = w ∧ k.isKey = true)
    (Q := fun w => ∃ x, value' w = .ok x ∧ x.value = w)
    (fun v k accepted isKey => by
      obtain ⟨k', accepted', value, isKey'⟩ := keys v k accepted
      exact ⟨k', accepted', value, isKey'.trans isKey⟩)
    fun v x accepted => by
      obtain ⟨x', accepted', value, -⟩ := values v x accepted
      exact ⟨x', accepted', value⟩
  obtain ⟨a', again, same'⟩ := exists_acceptEntries apart count each
  exact ⟨made, same, a', again, same'.trans same.symm,
    (isKey_of_acceptEntries again).trans (isKey_of_acceptEntries h).symm⟩

/-- **What is made of the entries fits again if the keys and the values do.** -/
theorem fits_acceptEntries_again (keys : FitsAgain key key')
    (isKey : ∀ v k, key' v = .ok k → k.isKey = true) (values : FitsAgain value value')
    (h : acceptEntries b key value entries = .ok a) :
    ∃ made, a.value = .map made ∧ Fits (.map made) (acceptEntries b key' value' made) := by
  obtain ⟨made, same, apart, count, fits⟩ := exists_map_of_acceptEntries h
    (P := fun w => Fits w (key' w)) (Q := fun w => Fits w (value' w))
    (fun v k accepted _ => keys v k accepted) values
  have each : ∀ e ∈ made, (∃ k, key' e.1 = .ok k ∧ k.value = e.1 ∧ k.isKey = true) ∧
      ∃ x, value' e.2 = .ok x ∧ x.value = e.2 := by
    intro e he
    obtain ⟨⟨k, hk, hke, -⟩, x, hx, hxe, -⟩ := fits e he
    exact ⟨⟨k, hk, hke, isKey _ k hk⟩, x, hx, hxe⟩
  obtain ⟨a', again, same'⟩ := exists_acceptEntries apart count each
  refine ⟨made, same, a', again, same', (isPerfect_acceptEntries again).mpr fun e he => ?_⟩
  obtain ⟨⟨k, hk, -, fk⟩, x, hx, -, fx⟩ := fits e he
  exact ⟨k, x, hk, hx, fk, fx⟩

/-- Where the keys and values of a map that keeps its keys apart are calm, so is the map. -/
theorem calm_acceptEntries (apart : Assoc.Apart entries)
    (keys : ∀ e ∈ entries, Calm e.1 (key e.1) ∧ ∀ k, key e.1 = .ok k → k.isKey = true)
    (values : ∀ e ∈ entries, Calm e.2 (value e.2)) :
    Calm (.map entries) (acceptEntries b key value entries) := by
  refine ⟨fun a h perfect => ?_, acceptEntries_ne_incomparable fun e he =>
    acceptEntry_ne_incomparable (keys e he).1.comparable (keys e he).2 (values e he).comparable⟩
  replace perfect := (isPerfect_acceptEntries h).mp perfect
  obtain ⟨accepted, each, -, rfl⟩ := acceptEntries_eq_ok_iff.mp h
  have same : accepted.map (fun p => (p.1.value, p.2.value)) = entries := by
    clear apart h
    induction each with
    | nil => rfl
    | @cons e p _ _ first _ ih =>
      obtain ⟨made, valued, -⟩ := acceptEntry_eq_ok_iff.mp first
      obtain ⟨⟨key, -⟩, keys⟩ := List.forall_mem_cons.mp keys
      obtain ⟨value, values⟩ := List.forall_mem_cons.mp values
      obtain ⟨⟨k, x, hk, hx, fits⟩, perfect⟩ := List.forall_mem_cons.mp perfect
      rw [List.map_cons, ih keys values perfect]
      obtain rfl := Except.ok.inj (made.symm.trans hk)
      obtain rfl := Except.ok.inj (valued.symm.trans hx)
      rw [key.value _ made fits.1, value.value _ valued fits.2]
  exact congrArg Value.map (by rw [madeOf, same, Assoc.ofEntries_of_apart apart])

end

end GraphMapper
