import GraphMapper.Proofs.Equality
import GraphMapper.Proofs.Validation.Steady

/-!
# Validating what was validated

A value that was validated is of its type, so validating it once more should leave it as it is.
This goes without saying for plain types and enumerations, and collections, mappings and entity
types pass it on from what is inside. Not so unions. A member is chosen by how well a value fits
it, and the value that it makes may fit another member better: of a list of numerals a list of
integers makes integers, which a union would rather take for something else.

Nor does it for an iterator, which is not the value it goes through: made of an iterator, there is
one more around it.

So a type is **stable** (`GraphMapper.TypeExpr.Stable`) if there are no iterators in it, and each
union either has a single member besides null, or is made of steady types
(`GraphMapper.TypeExpr.Steady`), or **settles** what it makes for some other reason
(`GraphMapper.TypeExpr.Settles`). A stable type gives again what it makes, within any bounds
(`GraphMapper.TypeExpr.Stable.givesAgain_acceptWithin`).
-/

namespace GraphMapper

open Checked Outcome

/-! ### Plain types and enumerations -/

/-- **A plain type gives again what it makes.** -/
theorem PlainType.givesAgain_accept (p : PlainType) (b : Bounds) :
    GivesAgain (p.accept b) (p.accept b) := by
  have anyKind : GivesAgain (.ok ∘ .anyKind) (.ok ∘ .anyKind) := by
    intro v a h
    obtain rfl := Except.ok.inj h
    exact ⟨_, rfl, rfl, rfl⟩
  cases p
  case text | integer | float | truth | null => exact givesAgain_of_isScalar rfl b
  case anything | object => exact anyKind
  case bytes =>
    intro v a h
    cases v with
    | text s =>
      obtain ⟨t, checked, rfl⟩ := map_eq_ok.mp h
      obtain rfl := Bounds.checkBytes_eq_ok checked
      exact ⟨_, h, rfl, rfl⟩
    | _ => cases h
  case map =>
    intro v a h
    obtain ⟨entries, -, made⟩ := bind_eq_ok.mp h
    obtain ⟨entries', same, gives⟩ := acceptEntries_again anyKind anyKind made
    rw [same]
    exact gives
  case list =>
    intro v a h
    obtain ⟨items, list, made⟩ := bind_eq_ok.mp h
    obtain rfl := CollectionKind.acceptAnyItems_eq_ok made
    cases v <;> cases list
    exact ⟨_, h, rfl, rfl⟩
  case set =>
    intro v a h
    obtain ⟨items, -, made⟩ := bind_eq_ok.mp h
    obtain ⟨kept, same, gives⟩ := acceptSet_again anyKind made
    rw [same]
    exact gives
  case tuple =>
    intro v a h
    obtain ⟨items, -, h⟩ := bind_eq_ok.mp h
    obtain ⟨as, made, rfl⟩ := map_eq_ok.mp h
    exact acceptItems_again anyKind made .tuple

/-- **An enumeration gives again what it makes**: the first member equal to a value is the first
that is equal to itself. -/
theorem givesAgain_acceptMember (members : List (String × Value)) :
    GivesAgain (acceptMember members) (acceptMember members) := by
  intro v a h
  obtain ⟨m, found, rfl⟩ := map_eq_ok.mp h
  cases first : members.find? fun m => m.2 == v with
  | none =>
    rw [first] at found
    cases found
  | some m' =>
    rw [first] at found
    obtain rfl := Except.ok.inj found
    refine ⟨_, ?_, rfl, rfl⟩
    rw [acceptMember, show (Accepted.reading m'.2).value = m'.2 from rfl,
      Value.find?_beq_self (f := Prod.snd) first]
    rfl

namespace TypeExpr

/-! ### Stable types -/

/-- Whatever recognises the instances in it, the type gives again what it makes. -/
def Settles (t : TypeExpr) : Prop :=
  ∀ f g, Recognises f g → GivesAgain (t.accept f {}) (t.accept g {})

/-- Types without iterators in which each union has at most one member besides null, or is steady,
or settles what it makes. -/
inductive Stable : TypeExpr → Prop where
  /-- A plain type. -/
  | plain (p : PlainType) : Stable (.plain p)
  /-- An entity type. -/
  | entity (r : EntityRef) : Stable (.entity r)
  /-- An enumeration. -/
  | enumeration (name : String) (members : List (String × Value)) :
    Stable (.enumeration name members)
  /-- A collection of items of a stable type, unless it is only to be gone through. -/
  | collection {kind : CollectionKind} (looks : kind ≠ .iterable) {item : TypeExpr}
    (h : Stable item) : Stable (.collection kind item)
  /-- A mapping between stable types. -/
  | mapping (kind : MappingKind) {key value : TypeExpr} (hk : Stable key) (hv : Stable value) :
    Stable (.mapping kind key value)
  /-- A wrapper that does not say what is inside. -/
  | bare (kind : BareKind) : Stable (.bare kind)
  /-- A union of null and at most one other member, which is stable. -/
  | optional (form : UnionForm) {members : List TypeExpr}
    (few : (members.filter (!·.isNull)).length ≤ 1) (h : ∀ t ∈ members, Stable t) :
    Stable (.union form members)
  /-- A union of steady members. -/
  | steady {maps : Bool} {form : UnionForm} {members : List TypeExpr}
    (h : ∀ t ∈ members, t.Steady maps) : Stable (.union form members)
  /-- A union of several members besides null that settles what they make. -/
  | settled {form : UnionForm} {members : List TypeExpr}
    (several : 1 < (members.filter (!·.isNull)).length) (h : (union form members).Settles) :
    Stable (.union form members)

variable {t : TypeExpr} {f g : EntityRef → Value → Checked Accepted} {maps : Bool}

/-- Steady types are stable. -/
theorem Steady.stable (h : t.Steady maps) : t.Stable := by
  induction h with
  | @plain p _ => exact .plain p
  | entity _ r => exact .entity r
  | collection exact _ ih => exact .collection (CollectionKind.ne_iterable_of_exact exact) ih
  | @mapping _ kind p _ _ _ ih => exact .mapping kind (.plain p) ih
  | union form h _ => exact .steady h

/-- Where there are no bounds none are looked after. -/
theorem split_empty (t : TypeExpr) : ((({} : Bounds).split t).1 : Bounds) = {} := by
  unfold Bounds.split
  split <;> rfl

/-- **A stable type gives again what it makes**, within the bounds it looks after. -/
theorem Stable.givesAgain (h : Recognises f g) (stable : t.Stable) :
    ∀ b : Bounds, GivesAgain (t.accept f (b.split t).1) (t.accept g (b.split t).1) := by
  induction stable with
  | plain p => exact fun b => p.givesAgain_accept _
  | entity r =>
    intro b v a made
    rw [accept, h.again made]
    exact gives_exactly (Accepted.isKey_of_frozen_eq (h.unfrozen made))
  | enumeration name members => exact fun b => givesAgain_acceptMember members
  | @collection kind looks item _ ih =>
    intro b
    have inside := ih {}
    rw [split_empty] at inside
    exact CollectionKind.accept_again looks _ item inside
  | @mapping kind key value _ _ ihk ihv =>
    intro b v a made
    have keys := ihk {}
    have values := ihv {}
    rw [split_empty] at keys values
    obtain ⟨entries, -, made⟩ := bind_eq_ok.mp made
    obtain ⟨entries', same, gives⟩ := acceptEntries_again keys values made
    rw [same]
    exact gives
  | bare kind =>
    cases kind with
    | list => exact fun b => PlainType.list.givesAgain_accept _
    | map => exact fun b => PlainType.map.givesAgain_accept _
  | @optional form members few _ ih =>
    intro b v a made
    change accept f {} (.union form members) v = .ok a at made
    change Gives a (accept g {} (.union form members) a.value)
    rcases accept_union_cases made with ⟨-, ⟨t, ht, null⟩, rfl⟩ | ⟨t, ht, notNull, made⟩
    · exact ⟨_, accept_union_null ht null, rfl, rfl⟩
    · -- The member is the only one besides null, so it speaks for the union.
      have mem : t ∈ members.filter (!·.isNull) := List.mem_filter.mpr ⟨ht, by simpa using notNull⟩
      obtain ⟨t', only⟩ : ∃ t', members.filter (!·.isNull) = [t'] :=
        List.length_eq_one_iff.mp (Nat.le_antisymm few (List.length_pos_of_mem mem))
      rw [only] at mem
      obtain rfl := List.mem_singleton.mp mem
      have inside := ih t ht {}
      rw [split_empty] at inside
      rw [accept]
      split
      · next null => exact gives_null (Bool.and_eq_true_iff.mp null).1
      · rw [acceptMembers_eq, only]
        exact inside v a made
  | steady steady =>
    exact fun b => Steady.givesAgain h (.union _ steady) _
  | settled _ settles => exact fun b => settles f g h

/-! ### Within bounds -/

theorem Stable.givesAgain_acceptBounded (h : Recognises f g) (stable : t.Stable) (b : Bounds) :
    GivesAgain (t.acceptBounded f b) (t.acceptBounded g b) := by
  intro v a made
  obtain ⟨a, accepted, made⟩ := bind_eq_ok.mp made
  obtain ⟨_, checked, same⟩ := bind_eq_ok.mp made
  obtain rfl := pure_eq_ok.mp same
  obtain ⟨a', again, same, key⟩ := stable.givesAgain h b v a accepted
  refine ⟨a', bind_eq_ok.mpr ⟨a', again, bind_eq_ok.mpr ⟨(), ?_, rfl⟩⟩, same, key⟩
  rw [same]
  exact checked

/-- The members of a stable union are stable if there is only one besides null. -/
theorem Stable.member {form : UnionForm} {members : List TypeExpr}
    (stable : (union form members).Stable) (only : members.filter (!·.isNull) = [t]) :
    t.Stable := by
  have mem : t ∈ members := List.mem_of_mem_filter (only ▸ List.mem_singleton_self t)
  cases stable with
  | optional _ _ h => exact h t mem
  | steady h => exact (h t mem).stable
  | settled several _ =>
    rw [only] at several
    exact absurd several (Nat.lt_irrefl 1)

/-- **A stable type gives again what it makes within the bounds of a field.** -/
theorem Stable.givesAgain_acceptWithin (h : Recognises f g) (stable : t.Stable) (b : Bounds) :
    GivesAgain (t.acceptWithin f b) (t.acceptWithin g b) := by
  cases t with
  | union form members =>
    intro v a made
    rw [acceptWithin] at made ⊢
    split at made
    · next null =>
      obtain rfl := Except.ok.inj made
      exact ⟨_, if_pos null, rfl, rfl⟩
    · split_ifs with null
      · exact gives_null (Bool.and_eq_true_iff.mp null).1
      · split at made
        · next only => exact (stable.member only).givesAgain_acceptBounded h b v a made
        · exact stable.givesAgain_acceptBounded h b v a made
  | _ => exact stable.givesAgain_acceptBounded h b

end TypeExpr

end GraphMapper
