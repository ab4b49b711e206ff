import GraphMapper.Node
import GraphMapper.Proofs.Assoc
import GraphMapper.Proofs.Outcome

/-!
# Acceptance does not depend on the time

An instance is made at a certain time, and the time goes into it: it is the default of some
fields. Whether the instance comes about must not depend on it. This is less obvious than it
sounds, since what was made is looked at again – it is compared with bounds, it becomes the
key of a map, and the best of several readings of a value is chosen by how well they fit.

All of these look at a made value from outside. `GraphMapper.Value.forget` forgets what the
instances in a value hold; bounds are data and do not notice
(`GraphMapper.Bounds.check_forget`), a key has no instances in it, and fits count fields that
are given, not those that are filled (`GraphMapper.Accepted.Alike`). So
`GraphMapper.Catalog.construct_agree`: from the same map, the same type makes an instance at
all times or at none.
-/

namespace GraphMapper

open Outcome

/-! ### Forgetting what instances hold -/

namespace Value

mutual

/-- A value without what the instances in it hold. -/
def forget : Value → Value
  | .list items => .list (forgetItems items)
  | .map entries => .map (forgetEntries entries)
  | .entity r _ => .entity r []
  | v => v

/-- Items without what the instances in them hold. -/
def forgetItems : List Value → List Value
  | [] => []
  | v :: rest => v.forget :: forgetItems rest

/-- Entries without what the instances in their values hold. -/
def forgetEntries : List (Value × Value) → List (Value × Value)
  | [] => []
  | (k, v) :: rest => (k, v.forget) :: forgetEntries rest

end

theorem forgetItems_eq_map (items : List Value) : forgetItems items = items.map forget := by
  induction items with
  | nil => rfl
  | cons v rest ih => rw [forgetItems, ih, List.map_cons]

theorem forgetEntries_eq_map (entries : Entries) :
    forgetEntries entries = entries.map (Prod.map id forget) := by
  induction entries with
  | nil => rfl
  | cons e rest ih =>
    obtain ⟨k, v⟩ := e
    rw [forgetEntries, ih]
    rfl

@[simp] theorem length_forgetItems (items : List Value) :
    (forgetItems items).length = items.length := by
  rw [forgetItems_eq_map, List.length_map]

@[simp] theorem length_forgetEntries (entries : Entries) :
    (forgetEntries entries).length = entries.length := by
  rw [forgetEntries_eq_map, List.length_map]

@[simp] theorem size?_forget (v : Value) : v.forget.size? = v.size? := by
  cases v <;> simp [forget, size?]

@[simp] theorem isKey_forget (v : Value) : v.forget.isKey = v.isKey := by
  cases v <;> rfl

/-! ### Data does not notice -/

theorem isData_of_mem {e : Value × Value} {entries : Entries} (he : e ∈ entries)
    (h : entriesAreData entries = true) : e.2.isData = true := by
  induction entries with
  | nil => cases he
  | cons e' rest ih =>
    obtain ⟨k, v⟩ := e'
    simp only [entriesAreData, Bool.and_eq_true] at h
    rcases List.mem_cons.mp he with rfl | he
    · exact h.1.2
    · exact ih he h.2

mutual

/-- **Data is equal to a value whatever the instances in the value hold.** -/
theorem equal_forget : ∀ (v : Value) {d : Value}, d.isData = true →
    equal v.forget d = equal v d
  | .list items, d, hd => by
    cases d with
    | list others => exact equalItems_forget items hd
    | _ => rfl
  | .map entries, d, hd => by
    cases d with
    | map others =>
      rw [forget, equal, equal, length_forgetEntries, equalEntries_forget entries hd]
    | _ => rfl
  | .entity r attributes, d, hd => by
    cases d with
    | entity => cases hd
    | _ => rfl
  | .null, _, _ | .bool _, _, _ | .int _, _, _ | .float _, _, _ | .text _, _, _
  | .node _, _, _ | .itemized _, _, _ | .type _, _, _ | .iterator _, _, _ => rfl

theorem equalItems_forget : ∀ (items : List Value) {others : List Value},
    itemsAreData others = true → equalItems (forgetItems items) others = equalItems items others
  | [], _, _ => rfl
  | v :: rest, others, hd => by
    cases others with
    | nil => rfl
    | cons d others =>
      simp only [itemsAreData, Bool.and_eq_true] at hd
      rw [forgetItems, equalItems, equalItems, equal_forget v hd.1, equalItems_forget rest hd.2]

theorem equalEntries_forget : ∀ (entries : Entries) {others : Entries},
    entriesAreData others = true →
      equalEntries (forgetEntries entries) others = equalEntries entries others
  | [], _, _ => rfl
  | (k, v) :: rest, others, hd => by
    have each : others.any (fun e => equal k e.1 && equal v.forget e.2) =
        others.any fun e => equal k e.1 && equal v e.2 := by
      rw [Bool.eq_iff_iff, List.any_eq_true, List.any_eq_true]
      refine exists_congr fun e => and_congr_right fun he => ?_
      rw [equal_forget v (isData_of_mem he hd)]
    rw [forgetEntries, equalEntries, equalEntries, each, equalEntries_forget rest hd]

end

mutual

/-- **Data compares with a value in the same way whatever the instances in the value hold.** -/
theorem standing?_forget : ∀ (v : Value) {d : Value}, d.isData = true →
    standing? v.forget d = standing? v d
  | .list items, d, hd => by
    cases d with
    | list others => exact itemsStanding?_forget items hd
    | _ => rfl
  | .null, _, _ | .bool _, _, _ | .int _, _, _ | .float _, _, _ | .text _, _, _ | .map _, _, _
  | .node _, _, _ | .itemized _, _, _ | .entity _ _, _, _ | .type _, _, _ | .iterator _, _, _ => rfl

theorem itemsStanding?_forget : ∀ (items : List Value) {others : List Value},
    itemsAreData others = true →
      itemsStanding? (forgetItems items) others = itemsStanding? items others
  | [], _, _ => rfl
  | v :: rest, others, hd => by
    cases others with
    | nil => rfl
    | cons d others =>
      simp only [itemsAreData, Bool.and_eq_true] at hd
      have same : (v.forget == d) = (v == d) := equal_forget v hd.1
      rw [forgetItems, itemsStanding?, itemsStanding?, same, itemsStanding?_forget rest hd.2,
        standing?_forget v hd.1]

end

end Value

namespace Bounds

theorem compareWith_forget (v : Value) (bound : Option Bound) (ways : List Standing)
    (c : Complaint) : compareWith v.forget bound ways c = compareWith v bound ways c := by
  cases bound with
  | none => rfl
  | some bound => rw [compareWith, compareWith, Value.standing?_forget v bound.isData]

theorem compareLength_forget (v : Value) (bound : Option Bound) (ways : List Standing)
    (c : Complaint) : compareLength v.forget bound ways c = compareLength v bound ways c := by
  unfold compareLength
  rw [Value.size?_forget]

/-- **Bounds do not look into instances.** -/
theorem check_forget (b : Bounds) (v : Value) : b.check v.forget = b.check v := by
  simp only [check, compareWith_forget, compareLength_forget]

end Bounds

/-! ### Validations that agree -/

/-- Two readings that are the same when instances are forgotten, with the same fit. -/
structure Accepted.Alike (a b : Accepted) : Prop where
  /-- The values are the same when instances are forgotten. -/
  value : a.value.forget = b.value.forget
  /-- The fits are the same. -/
  fit : a.fit = b.fit
  /-- Both are frozen, or neither. -/
  frozen : a.frozen = b.frozen
  /-- There is no instance in a key, so keys are the same. -/
  key : a.isKey = true → a.value = b.value

theorem Accepted.Alike.refl (a : Accepted) : a.Alike a := ⟨rfl, rfl, rfl, fun _ => rfl⟩

/-- Both can be keys, or neither. -/
theorem Accepted.Alike.isKey {a b : Accepted} (h : a.Alike b) : a.isKey = b.isKey := by
  rw [Accepted.isKey, Accepted.isKey, h.frozen, ← Value.isKey_forget a.value, h.value,
    Value.isKey_forget]

/-- Lists of keys that are alike are the same. -/
theorem Accepted.Alike.map_value_eq {as bs : List Accepted} (h : List.Forall₂ Alike as bs)
    (keys : ∀ a ∈ as, a.isKey = true) : as.map (·.value) = bs.map (·.value) := by
  induction h with
  | nil => rfl
  | cons first _ ih =>
    obtain ⟨key, others⟩ := List.forall_mem_cons.mp keys
    rw [List.map_cons, List.map_cons, first.key key, ih others]

namespace Checked

variable {α β : Type} {R : α → α → Prop} {S : β → β → Prop}

theorem under_agree {c c' : Checked α} (step : Step) (h : Agree R c c') :
    Agree R (c.under step) (c'.under step) :=
  h.mapError _

theorem both_agree {c c' : Checked α} {d d' : Checked β} (hc : Agree R c c')
    (hd : Agree S d d') :
    Agree (fun p q => R p.1 q.1 ∧ S p.2 q.2) (both c d) (both c' d') := by
  cases hc with
  | error r =>
    cases hd with
    | error r' => exact .error _
    | ok _ => exact .error r
  | ok hab =>
    cases hd with
    | error r => exact .error r
    | ok hcd => exact .ok ⟨hab, hcd⟩

theorem gather_agree {cs cs' : List (Checked α)} (h : List.Forall₂ (Agree R) cs cs') :
    Agree (List.Forall₂ R) (gather cs) (gather cs') := by
  induction h with
  | nil => exact .ok .nil
  | cons first _ ih => exact (both_agree first ih).map fun _ _ h => .cons h.1 h.2

end Checked

open Checked

/-- Choosing the best looks at fits, and at nothing else that was read. -/
theorem choose_agree {outcomes outcomes' : List (String × Checked Accepted)}
    (h : List.Forall₂ (fun p q => p.1 = q.1 ∧ Agree Accepted.Alike p.2 q.2) outcomes outcomes')
    {best best' : Option Accepted} (hb : Option.Rel Accepted.Alike best best')
    (found : List Issue) :
    Agree Accepted.Alike (choose best found outcomes) (choose best' found outcomes') := by
  induction h generalizing best best' found with
  | nil =>
    cases hb with
    | none => exact .error _
    | some h => exact .ok h
  | @cons p q rest rest' first _ ih =>
    obtain ⟨name, outcome⟩ := p
    obtain ⟨name', outcome'⟩ := q
    obtain ⟨rfl, ho⟩ : name = name' ∧ Agree Accepted.Alike outcome outcome' := first
    have seen := under_agree (.key name) ho
    rw [choose, choose]
    generalize outcome.under (.key name) = x, outcome'.under (.key name) = x' at seen ⊢
    cases seen with
    | error r =>
      cases r with
      | issues more => exact ih hb _
      | incomparable => exact .error _
    | @ok a b hab =>
      -- A reading that cannot be better ends the search, and that is a matter of its fit.
      dsimp only
      rw [hab.fit]
      split
      · exact .ok hab
      · refine ih ?_ found
        cases hb with
        | none => exact .some hab
        | @some best best' hbest =>
          refine .some ?_
          rw [Accepted.better, Accepted.better, hab.fit, hbest.fit]
          split
          · exact hab
          · exact hbest

/-! ### Collections and mappings -/

/-- Items that are related wherever they stand make lists that are related. -/
theorem forall₂_mapIdx {α β : Type} {R : β → β → Prop} {f f' : Nat → α → β}
    (h : ∀ n a, R (f n a) (f' n a)) (as : List α) :
    List.Forall₂ R (as.mapIdx f) (as.mapIdx f') := by
  induction as generalizing f f' with
  | nil => exact .nil
  | cons a rest ih =>
    rw [List.mapIdx_cons, List.mapIdx_cons]
    exact .cons (h 0 a) (ih fun n => h (n + 1))

/-- What related items have in common, the lists of them have in common. -/
theorem map_eq_of_forall₂ {α β : Type} {R : α → α → Prop} {f : α → β} {as bs : List α}
    (h : List.Forall₂ R as bs) (hf : ∀ a b, R a b → f a = f b) : as.map f = bs.map f := by
  induction h with
  | nil => rfl
  | cons first _ ih => rw [List.map_cons, List.map_cons, hf _ _ first, ih]

theorem collect_alike (kind : CollectionKind) {items items' : List Accepted}
    (alike : List.Forall₂ Accepted.Alike items items') :
    (kind.collect items).Alike (kind.collect items') where
  value := by
    simp only [CollectionKind.collect, Value.forget, Value.forgetItems_eq_map, List.map_map]
    exact congrArg Value.list (map_eq_of_forall₂ alike fun _ _ h => h.value)
  fit := by rw [CollectionKind.collect, map_eq_of_forall₂ alike fun _ _ h => h.fit]; rfl
  frozen := by
    have keys := congrArg (List.all · id) (map_eq_of_forall₂ alike fun _ _ h => h.isKey)
    simp only [List.all_map] at keys
    exact congrArg (decide (kind = .tuple) && ·) keys
  key := by
    intro key
    rw [kind.isKey_collect] at key
    have keys := List.all_eq_true.mp (Bool.and_eq_true_iff.mp key).2
    exact congrArg Value.list (Accepted.Alike.map_value_eq alike keys)

section Collections

variable {item item' : Value → Checked Accepted}
  (h : ∀ v, Agree Accepted.Alike (item v) (item' v))

include h

theorem acceptEach_agree (items : List Value) :
    Agree (List.Forall₂ Accepted.Alike) (acceptEach item items) (acceptEach item' items) :=
  gather_agree (forall₂_mapIdx (fun _ v => under_agree _ (h v)) items)

theorem acceptItems_agree (b : Bounds) (items : List Value) :
    Agree (List.Forall₂ Accepted.Alike) (acceptItems b item items)
      (acceptItems b item' items) := by
  unfold acceptItems
  split
  · next n _ =>
    -- There are too many items: what was made of the first ones is not kept.
    have each := acceptEach_agree h (items.take (n + 1))
    generalize acceptEach item (items.take (n + 1)) = x,
      acceptEach item' (items.take (n + 1)) = x' at each
    cases each with
    | error r => cases r <;> exact .error _
    | ok _ => exact .error _
  · refine (acceptEach_agree h items).bind fun accepted accepted' alike => ?_
    rw [alike.length_eq]
    exact (Agree.refl (fun _ => rfl) (b.checkCount _)).bind fun _ _ _ => .ok alike

/-- The items of a set are keys, so they are the same. -/
theorem acceptDistinct_agree (longest : Option Nat) (n : Nat) (kept : List Value)
    (found : List Issue) (items : List Value) :
    Agree (fun made made' => made = made') (acceptDistinct longest item n kept found items)
      (acceptDistinct longest item' n kept found items) := by
  induction items generalizing n kept found with
  | nil => exact .refl (fun _ => rfl) _
  | cons v rest ih =>
    have seen := under_agree (.index n) (h v)
    rw [acceptDistinct, acceptDistinct]
    generalize (item v).under (.index n) = x, (item' v).under (.index n) = x' at seen ⊢
    cases seen with
    | error r =>
      cases r with
      | issues more => exact ih _ _ _
      | incomparable => exact .error _
    | @ok a b alike =>
      dsimp only
      rw [← alike.isKey]
      split
      · next key =>
        rw [← alike.key key]
        split
        · exact .refl (fun _ => rfl) _
        · exact ih _ _ _
      · exact ih _ _ _

theorem acceptSet_agree (b : Bounds) (frozen : Bool) (items : List Value) :
    Agree Accepted.Alike (acceptSet b frozen item items) (acceptSet b frozen item' items) := by
  refine (acceptDistinct_agree h _ 0 [] [] items).bind fun kept _ same => ?_
  subst same
  exact .refl Accepted.Alike.refl _

theorem CollectionKind.accept_agree (kind : CollectionKind) (b : Bounds) (itemType : TypeExpr)
    (v : Value) :
    Agree Accepted.Alike (kind.accept b itemType item v) (kind.accept b itemType item' v) := by
  have same {e : Checked Accepted} : Agree Accepted.Alike e e := .refl Accepted.Alike.refl e
  have collected (kind : CollectionKind) (items : List Value) :
      Agree Accepted.Alike (do pure (kind.collect (← acceptItems b item items)))
        (do pure (kind.collect (← acceptItems b item' items))) :=
    (acceptItems_agree h b items).bind fun _ _ alike => .ok (collect_alike kind alike)
  unfold CollectionKind.accept
  split
  · split
    · exact same
    · refine (Agree.refl (fun _ => rfl) v.readSequence).bind fun items _ hi => ?_
      subst hi
      split
      · exact same
      · exact collected _ items
  · exact same
  · refine (Agree.refl (fun _ => rfl) (v.readList _)).bind fun items _ hi => ?_
    subst hi
    split
    · exact acceptSet_agree h b _ items
    · split
      · exact same
      · exact collected _ items

end Collections

/-! ### Mappings -/

/-- A key that was made is the same key, or it is no key at all. -/
theorem acceptKey_agree {a b : Accepted} (h : a.Alike b) :
    Agree (fun k k' => k = k') (acceptKey a) (acceptKey b) := by
  unfold acceptKey
  rw [← h.isKey]
  split
  · next key =>
    obtain ⟨value, fit, frozen⟩ := a
    obtain rfl : value = b.value := h.key key
    obtain rfl : fit = b.fit := h.fit
    obtain rfl : frozen = b.frozen := h.frozen
    exact .ok rfl
  · exact .error _

/-- Two entries of a map that was made: the key is the same, and the values are alike. -/
def EntryAlike (e e' : Accepted × Accepted) : Prop := e.1 = e'.1 ∧ e.2.Alike e'.2

theorem forgetEntries_ofEntries (entries : Entries) :
    Value.forgetEntries (Assoc.ofEntries entries) =
      Assoc.ofEntries (Value.forgetEntries entries) := by
  rw [Value.forgetEntries_eq_map, Value.forgetEntries_eq_map]
  exact (Assoc.ofEntries_map (f := id) (fun _ _ => rfl) Value.forget entries).symm

section Mappings

variable {key key' value value' : Value → Checked Accepted}
  (hk : ∀ v, Agree Accepted.Alike (key v) (key' v))
  (hv : ∀ v, Agree Accepted.Alike (value v) (value' v))

include hk hv

theorem acceptEntry_agree (e : Value × Value) :
    Agree EntryAlike (acceptEntry key value e) (acceptEntry key' value' e) := by
  refine (under_agree _ (both_agree (under_agree _ (hk e.1)) (hv e.2))).bind ?_
  rintro ⟨k, v⟩ ⟨k', v'⟩ ⟨keys, values⟩
  exact (acceptKey_agree keys).bind fun _ _ same => .ok ⟨same, values⟩

theorem acceptEntries_agree (b : Bounds) (entries : Entries) :
    Agree Accepted.Alike (acceptEntries b key value entries)
      (acceptEntries b key' value' entries) := by
  have each : List.Forall₂ (Agree EntryAlike) (entries.map (acceptEntry key value))
      (entries.map (acceptEntry key' value')) := by
    rw [List.forall₂_map_left_iff, List.forall₂_map_right_iff, List.forall₂_same]
    exact fun e _ => acceptEntry_agree hk hv e
  refine (gather_agree each).bind fun accepted accepted' alike => ?_
  -- Keys are the same, so entries fall together on one side if they do on the other.
  have made : Value.forgetEntries
        (Assoc.ofEntries (accepted.map fun e => (e.1.value, e.2.value))) =
      Value.forgetEntries
        (Assoc.ofEntries (accepted'.map fun e => (e.1.value, e.2.value))) := by
    rw [forgetEntries_ofEntries, forgetEntries_ofEntries, Value.forgetEntries_eq_map,
      Value.forgetEntries_eq_map, List.map_map, List.map_map]
    refine congrArg _ (map_eq_of_forall₂ alike ?_)
    rintro ⟨k, v⟩ ⟨k', v'⟩ ⟨rfl, values⟩
    exact congrArg (Prod.mk _) values.value
  have fits : accepted.map (fun e => e.1.fit.and e.2.fit) =
      accepted'.map fun e => e.1.fit.and e.2.fit := by
    refine map_eq_of_forall₂ alike ?_
    rintro ⟨k, v⟩ ⟨k', v'⟩ ⟨rfl, values⟩
    exact congrArg _ values.fit
  dsimp only
  rw [← Value.length_forgetEntries, made, Value.length_forgetEntries, fits]
  refine (Agree.refl (fun _ => rfl) (b.checkCount _)).bind fun _ _ _ =>
    .ok ⟨congrArg Value.map made, rfl, rfl, by rintro ⟨⟩⟩

end Mappings

/-! ### Type expressions -/

namespace TypeExpr

theorem ofOutcomes_agree {outcomes outcomes' : List (String × Checked Accepted)}
    (h : List.Forall₂ (fun p q => p.1 = q.1 ∧ Agree Accepted.Alike p.2 q.2) outcomes outcomes') :
    Agree Accepted.Alike (ofOutcomes outcomes) (ofOutcomes outcomes') := by
  cases h with
  | nil => exact choose_agree .nil .none []
  | cons first rest =>
    cases rest with
    | nil => exact first.2
    | cons second rest => exact choose_agree (.cons first (.cons second rest)) .none []

section

variable {asEntity asEntity' : EntityRef → Value → Checked Accepted}

mutual

/-- **What a type expression makes of a value** is alike if instances are: by recursion on the
expression. -/
theorem accept_agree (h : ∀ r v, Agree Accepted.Alike (asEntity r v) (asEntity' r v))
    (b : Bounds) : ∀ (t : TypeExpr) (v : Value),
    Agree Accepted.Alike (accept asEntity b t v) (accept asEntity' b t v)
  | .plain p, v => .refl Accepted.Alike.refl (p.accept b v)
  | .entity r, v => h r v
  | .enumeration _ members, v => .refl Accepted.Alike.refl (acceptMember members v)
  | .collection kind item, v => kind.accept_agree (accept_agree h {} item) b item v
  | .mapping _ key value, v => by
    refine (Agree.refl (fun _ => rfl) v.readMap).bind fun entries _ he => ?_
    subst he
    exact acceptEntries_agree (accept_agree h {} key) (accept_agree h {} value) b entries
  | .bare .list, v => .refl Accepted.Alike.refl (PlainType.list.accept b v)
  | .bare .map, v => .refl Accepted.Alike.refl (PlainType.map.accept b v)
  | .union form members, v => by
    rw [accept, accept]
    split
    · exact .ok (.refl _)
    · exact ofOutcomes_agree (acceptMembers_agree h b members v)

theorem acceptMembers_agree (h : ∀ r v, Agree Accepted.Alike (asEntity r v) (asEntity' r v))
    (b : Bounds) : ∀ (members : List TypeExpr) (v : Value),
    List.Forall₂ (fun p q => p.1 = q.1 ∧ Agree Accepted.Alike p.2 q.2)
      (acceptMembers asEntity b members v) (acceptMembers asEntity' b members v)
  | [], _ => .nil
  | t :: rest, v => by
    rw [acceptMembers, acceptMembers]
    split
    · exact acceptMembers_agree h b rest v
    · exact .cons ⟨rfl, accept_agree h b t v⟩ (acceptMembers_agree h b rest v)

end

variable (h : ∀ r v, Agree Accepted.Alike (asEntity r v) (asEntity' r v))

include h

theorem acceptBounded_agree (b : Bounds) (t : TypeExpr) (v : Value) :
    Agree Accepted.Alike (acceptBounded asEntity b t v) (acceptBounded asEntity' b t v) := by
  refine (accept_agree h (b.split t).1 t v).bind fun a a' alike => ?_
  -- What was made is compared with the bounds, which do not look into instances.
  rw [← Bounds.check_forget, alike.value, Bounds.check_forget]
  exact (Agree.refl (fun _ => rfl) _).bind fun _ _ _ => .ok alike

theorem acceptWithin_agree (b : Bounds) (t : TypeExpr) (v : Value) :
    Agree Accepted.Alike (acceptWithin asEntity b t v) (acceptWithin asEntity' b t v) := by
  unfold acceptWithin
  split
  · split
    · exact .ok (.refl _)
    · split
      · exact acceptBounded_agree h b _ v
      · exact acceptBounded_agree h b _ v
  · exact acceptBounded_agree h b _ v

end

end TypeExpr

/-! ### Instances -/

/-- What a field holds fits as well at another time; the value may be another. -/
theorem Field.made_agree {asEntity asEntity' : EntityRef → Value → Checked Accepted}
    (h : ∀ r v, Agree Accepted.Alike (asEntity r v) (asEntity' r v)) (now now' : Float)
    (entries : Entries) (f : Field) :
    Agree (fun a a' => a.fit = a'.fit) (f.made asEntity now entries)
      (f.made asEntity' now' entries) := by
  unfold made
  split
  · next name v _ =>
    exact under_agree _ ((TypeExpr.acceptWithin_agree h f.bounds f.type v).mono
      fun _ _ alike => alike.fit)
  · -- Fits count what is given, so no default counts, and the current time is a default.
    unfold filled
    cases f.default with
    | required => exact .error _
    | value | emptyList | currentTime => exact .ok rfl

namespace Catalog

variable (c : Catalog) (now now' : Float)

/-- Attributes under the same names, with the same fits, make instances that are alike. -/
theorem instanceOf_alike (r : EntityRef) (fields : List Field) (entries : Entries)
    {attributes attributes' : List (String × Accepted)}
    (h : List.Forall₂ (fun p q => p.1 = q.1 ∧ p.2.fit = q.2.fit) attributes attributes') :
    (instanceOf r fields entries attributes).Alike (instanceOf r fields entries attributes') where
  value := rfl
  fit := by
    have inner : attributes.foldr (fun a n => a.2.fit.given.getD 0 + n) 0 =
        attributes'.foldr (fun a n => a.2.fit.given.getD 0 + n) 0 := by
      induction h with
      | nil => rfl
      | cons same _ ih => rw [List.foldr_cons, List.foldr_cons, same.2, ih]
    rw [instanceOf, instanceOf, inner]
  frozen := rfl
  key := by rintro ⟨⟩

theorem acceptEntity_agree {make make' : Nesting → EntityRef → Entries → Checked Accepted}
    (h : ∀ n r entries, Agree Accepted.Alike (make n r entries) (make' n r entries))
    (n : Nesting) (r : EntityRef) (v : Value) :
    Agree Accepted.Alike (c.acceptEntity make n r v) (c.acceptEntity make' n r v) := by
  unfold acceptEntity
  dsimp only
  cases n.inside? (c.resolve r) with
  | none => exact .error _
  | some n =>
    cases v with
    | map | node => exact h _ _ _
    | entity => exact .refl Accepted.Alike.refl _
    | _ => exact .error _

/-- By induction on the depth of nesting. -/
theorem make_agree (depth : Nat) (n : Nesting) (r : EntityRef) (entries : Entries) :
    Agree Accepted.Alike (c.make now depth n r entries) (c.make now' depth n r entries) := by
  induction depth generalizing n r entries with
  | zero => exact .error _
  | succ depth ih =>
    rw [make, make]
    refine Agree.map (gather_agree (R := fun p q => p.1 = q.1 ∧ p.2.fit = q.2.fit) ?_)
      fun _ _ => instanceOf_alike r _ entries
    rw [List.forall₂_map_left_iff, List.forall₂_map_right_iff, List.forall₂_same]
    intro f _
    exact (f.made_agree (c.acceptEntity_agree ih n) now now' entries).map
      fun _ _ fits => ⟨rfl, fits⟩

/-- **From the same map, the same type makes an instance at all times or at none.** -/
theorem construct_agree (r : EntityRef) (entries : Entries) :
    Agree (fun _ _ => True) (c.construct now r entries) (c.construct now' r entries) := by
  unfold construct
  split
  · exact .error _
  · split
    · refine Agree.mapError _ (Agree.map (c.acceptEntity_agree ?_ _ r _) fun _ _ _ => trivial)
      exact c.make_agree now now' _
    · exact .error _

theorem mapNode_agree (r : EntityRef) (properties : Option Entries) :
    Agree (fun _ _ => True) (c.mapNode now r properties) (c.mapNode now' r properties) := by
  cases properties with
  | none => exact .ok trivial
  | some entries => exact c.construct_agree now now' r entries

end Catalog

end GraphMapper
