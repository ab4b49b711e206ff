import GraphMapper.Proofs.Declaring
import Mathlib.Data.List.Nodup

/-!
# What a type leads to

Types refer to types, and what is asked of a type before its use is asked of all those that it
leads to: of the ones it **reaches** (`GraphMapper.Catalog.Reaches`). A catalog finds them by going
along references, and gives up after a number of them.

In an **ordered** catalog (`GraphMapper.Catalog.Ordered`) it never has to give up. The types are
numbered in order, so a reference leads to the type that it was made for, and going along the
references of a type that is new takes away more than it adds: what is still pending and what the
types not seen so far refer to, taken together, gets less with every reference
(`GraphMapper.Catalog.Ordered.weight_lt`). So what is met are the types reached, neither more nor
less (`GraphMapper.Catalog.Ordered.mem_referencesFrom_iff`), and the two questions have their
answers:

* `GraphMapper.Catalog.Ordered.unresolved?_eq_none_iff`: nothing is unresolved where all types
  reached refer to known types;
* `GraphMapper.Catalog.Ordered.isSuited_iff`: a type is suited if all those reached are.

In a **sound** catalog (`GraphMapper.Catalog.Sound`) names tell the types apart as well, so that
what a name stands for is settled once and for all.
-/

namespace GraphMapper.Catalog

variable {c : Catalog} {q r s : EntityRef} {t : EntityType}

/-! ### Ordered catalogs -/

/-- The references that can stand in a catalog. -/
inductive Admits (c : Catalog) : EntityRef → Prop where
  /-- One to the base type. -/
  | base : Admits c .base
  /-- One to a name. -/
  | pending (name : String) : Admits c (.pending name)
  /-- One to a type of the catalog. -/
  | ref {t : EntityType} (declared : t ∈ c.types) : Admits c t.ref

/-- Catalogs in which numbers tell the types apart, and all references lead to what they were made
for. -/
structure Ordered (c : Catalog) : Prop where
  /-- The types are numbered in the order of their declarations. -/
  numbered : c.types.map EntityType.number = List.range c.types.length
  /-- They refer to what there is, and to names. -/
  admitted : ∀ t ∈ c.types, ∀ q ∈ t.references, c.Admits q

/-- Catalogs in which names and numbers tell the types apart, and all references lead to what they
were made for. -/
structure Sound (c : Catalog) : Prop where
  /-- The types are numbered in the order of their declarations. -/
  numbered : c.types.map EntityType.number = List.range c.types.length
  /-- They have different names. -/
  distinct : (c.types.map EntityType.name).Nodup
  /-- They refer to what there is, and to names. -/
  admitted : ∀ t ∈ c.types, ∀ q ∈ t.references, c.Admits q

theorem Sound.ordered (h : c.Sound) : c.Ordered := ⟨h.numbered, h.admitted⟩

/-- What is told apart from all others by a key is found by it. -/
theorem find?_of_nodup_map {α β : Type} [DecidableEq β] {key : α → β} {as : List α}
    (h : (as.map key).Nodup) {a : α} (ha : a ∈ as) : as.find? (key · = key a) = some a := by
  have some : (as.find? (key · = key a)).isSome = true := List.find?_isSome.mpr ⟨a, ha, by simp⟩
  obtain ⟨b, found⟩ := Option.isSome_iff_exists.mp some
  have same : key b = key a := by simpa using List.find?_some found
  rw [found, List.inj_on_of_nodup_map h (List.mem_of_find?_eq_some found) ha same]

theorem Ordered.find?_ref (h : c.Ordered) (ht : t ∈ c.types) : c.find? t.ref = some t := by
  refine find?_of_nodup_map ?_ ht
  rw [h.numbered]
  exact List.nodup_range

theorem Sound.latest?_name (h : c.Sound) (ht : t ∈ c.types) : c.latest? t.name = some t := by
  refine find?_of_nodup_map ?_ (List.mem_reverse.mpr ht)
  rw [List.map_reverse]
  exact (List.reverse_perm _).nodup_iff.mpr h.distinct

/-- A name stands for the type that was declared under it. -/
theorem Sound.refer_name (h : c.Sound) (ht : t ∈ c.types) (other : t.name ≠ baseTypeName) :
    c.refer t.name = t.ref := by
  rw [refer, if_neg other, h.latest?_name ht]
  rfl

theorem mem_types_of_latest? {name : String} (h : c.latest? name = some t) :
    t ∈ c.types ∧ t.name = name :=
  ⟨List.mem_reverse.mp (List.mem_of_find?_eq_some h), by simpa using List.find?_some h⟩

theorem admits_refer (c : Catalog) (name : String) : c.Admits (c.refer name) := by
  unfold refer
  split
  · exact .base
  · cases found : c.latest? name with
    | none => exact .pending name
    | some t => exact .ref (mem_types_of_latest? found).1

theorem Admits.resolve (h : c.Admits q) : c.Admits (c.resolve q) := by
  cases h with
  | base => exact .base
  | pending name => exact c.admits_refer name
  | ref ht => exact .ref ht

@[simp] theorem find?_resolve (c : Catalog) (q : EntityRef) :
    c.find? (c.resolve q) = c.find? q := by
  rw [find?, resolve_resolve]
  rfl

@[simp] theorem knows_resolve (c : Catalog) (q : EntityRef) :
    c.knows (c.resolve q) = c.knows q := by
  rw [knows, resolve_resolve]
  rfl

theorem knows_of_find? (h : c.find? q = some t) : c.knows q = true := by
  unfold find? at h
  split at h
  · next found =>
    rw [knows, found]
    rfl
  · cases h

/-- Where a reference leads to a type, it comes to the reference to this type. -/
theorem Ordered.resolve_eq_ref (h : c.Ordered) (hq : c.Admits q) (found : c.find? q = some t) :
    c.resolve q = t.ref := by
  have settled (r : EntityRef) (hr : c.Admits r) (same : c.resolve r = r)
      (found : c.find? r = some t) : r = t.ref := by
    rcases hr with _ | name | @⟨u, hu⟩
    · cases found
    · unfold find? at found
      rw [same] at found
      cases found
    · rw [h.find?_ref hu] at found
      rw [Option.some.inj found]
  exact settled _ hq.resolve (c.resolve_resolve q) (by rw [find?_resolve, found])

/-! ### Going along references -/

/-- The types reached from a type, by references to them: the type itself, and what those reached
refer to. -/
inductive Reaches (c : Catalog) (r : EntityRef) : EntityRef → Prop where
  /-- A type reaches itself. -/
  | itself : Reaches c r (c.resolve r)
  /-- It reaches what a type that it reaches refers to. -/
  | along {s q : EntityRef} {t : EntityType} (reached : Reaches c r s) (found : c.find? s = some t)
      (refers : q ∈ t.references) : Reaches c r (c.resolve q)

/-- Only what a catalog admits is reached in it. -/
theorem Reaches.admits (h : c.Ordered) (hr : c.Admits r) (reached : c.Reaches r s) :
    c.Admits s := by
  induction reached with
  | itself => exact hr.resolve
  | along _ found refers _ => exact (h.admitted _ (mem_types_of_find? found) _ refers).resolve

/-- What a reference leads to refers to known types only, if it is a type. -/
def Resolved (c : Catalog) (s : EntityRef) : Prop :=
  ∀ t, c.find? s = some t → ∀ q ∈ t.references, c.knows q = true

/-- Where all that is reached is resolved, it is known. -/
theorem Reaches.knows (known : c.knows r = true) (resolved : ∀ s, c.Reaches r s → c.Resolved s)
    (reached : c.Reaches r s) : c.knows s = true := by
  rcases reached with _ | @⟨s, q, t, reached, found, refers⟩
  · rw [knows_resolve, known]
  · rw [knows_resolve, resolved s reached t found q refers]

/-- How many references a type adds to those that are met: its own, if it has not been seen. -/
def unseen (seen : List EntityRef) (t : EntityType) : Nat :=
  if t.ref ∈ seen then 0 else t.references.length

/-- How many references some types add to those that are met. -/
def unseenOf (seen : List EntityRef) : List EntityType → Nat
  | [] => 0
  | t :: types => unseen seen t + unseenOf seen types

/-- How many references are still to be met: those that are pending, and those of the types that
have not been seen. -/
def weight (c : Catalog) (pending seen : List EntityRef) : Nat :=
  pending.length + unseenOf seen c.types

theorem unseen_cons_le (r : EntityRef) (seen : List EntityRef) (t : EntityType) :
    unseen (r :: seen) t ≤ unseen seen t := by
  unfold unseen
  split
  · exact Nat.zero_le _
  · next unmet =>
    exact Nat.le_of_eq (if_neg fun met => unmet (List.mem_cons_of_mem r met)).symm

theorem unseenOf_cons_le (r : EntityRef) (seen : List EntityRef) (types : List EntityType) :
    unseenOf (r :: seen) types ≤ unseenOf seen types := by
  induction types with
  | nil => exact Nat.le_refl 0
  | cons t types ih => exact Nat.add_le_add (unseen_cons_le r seen t) ih

/-- A type that is seen for the first time takes its references away. -/
theorem length_add_unseenOf_le {types : List EntityType} {seen : List EntityRef} (ht : t ∈ types)
    (fresh : t.ref ∉ seen) :
    t.references.length + unseenOf (t.ref :: seen) types ≤ unseenOf seen types := by
  induction types with
  | nil => cases ht
  | cons u types ih =>
    rw [unseenOf, unseenOf]
    rcases List.mem_cons.mp ht with rfl | ht
    · have before : unseen seen t = t.references.length := if_neg fresh
      have now : unseen (t.ref :: seen) t = 0 := if_pos List.mem_cons_self
      have others := unseenOf_cons_le t.ref seen types
      omega
    · have first := unseen_cons_le t.ref seen u
      have others := ih ht
      omega

/-- **Every reference met makes fewer that are still to be met.** -/
theorem Ordered.weight_lt (h : c.Ordered) (hq : c.Admits q) (pending : List EntityRef)
    {seen : List EntityRef} (fresh : c.resolve q ∉ seen) :
    c.weight (((c.find? q).map EntityType.references).getD [] ++ pending) (c.resolve q :: seen) <
      c.weight (q :: pending) seen := by
  unfold weight
  rw [List.length_append, List.length_cons]
  cases found : c.find? q with
  | none =>
    have others := unseenOf_cons_le (c.resolve q) seen c.types
    simp only [Option.map_none, Option.getD_none, List.length_nil]
    omega
  | some t =>
    have same := h.resolve_eq_ref hq found
    rw [same] at fresh ⊢
    have others := length_add_unseenOf_le (mem_types_of_find? found) fresh
    simp only [Option.map_some, Option.getD_some]
    omega

theorem walk_of_mem {n : Nat} {pending seen : List EntityRef} (met : c.resolve q ∈ seen) :
    c.walk (n + 1) (q :: pending) seen = c.resolve q :: c.walk n pending seen :=
  if_pos (List.contains_iff_mem.mpr met)

theorem walk_of_notMem {n : Nat} {pending seen : List EntityRef} (fresh : c.resolve q ∉ seen) :
    c.walk (n + 1) (q :: pending) seen = c.resolve q ::
      c.walk n (((c.find? q).map EntityType.references).getD [] ++ pending)
        (c.resolve q :: seen) := by
  rw [← find?_resolve]
  exact if_neg (mt List.contains_iff_mem.mp fresh)

/-- What is met is reached. -/
theorem reaches_of_mem_walk {n : Nat} {pending seen : List EntityRef}
    (reached : ∀ q ∈ pending, c.Reaches r (c.resolve q)) (hs : s ∈ c.walk n pending seen) :
    c.Reaches r s := by
  induction n generalizing pending seen with
  | zero => cases hs
  | succ n ih =>
    rcases pending with _ | ⟨q, pending⟩
    · cases hs
    obtain ⟨first, others⟩ := List.forall_mem_cons.mp reached
    by_cases met : c.resolve q ∈ seen
    · rw [walk_of_mem met] at hs
      rcases List.mem_cons.mp hs with rfl | hs
      · exact first
      · exact ih others hs
    · rw [walk_of_notMem met] at hs
      rcases List.mem_cons.mp hs with rfl | hs
      · exact first
      · refine ih (List.forall_mem_append.mpr ⟨?_, others⟩) hs
        cases found : c.find? q with
        | none => simp
        | some t => exact fun p hp => .along first (by rw [find?_resolve, found]) hp

/-- What is pending is met, and with what is met for the first time all that it refers to. -/
theorem Ordered.mem_walk (h : c.Ordered) {n : Nat} {pending seen : List EntityRef}
    (admitted : ∀ q ∈ pending, c.Admits q) (enough : c.weight pending seen ≤ n) :
    (∀ q ∈ pending, c.resolve q ∈ c.walk n pending seen) ∧
      ∀ s ∈ c.walk n pending seen, s ∉ seen → ∀ t, c.find? s = some t →
        ∀ q ∈ t.references, c.resolve q ∈ c.walk n pending seen := by
  induction n generalizing pending seen with
  | zero =>
    obtain rfl : pending = [] := List.eq_nil_of_length_eq_zero (by unfold weight at enough; omega)
    exact ⟨by simp, by simp [walk]⟩
  | succ n ih =>
    rcases pending with _ | ⟨q, pending⟩
    · exact ⟨by simp, by simp [walk]⟩
    obtain ⟨first, others⟩ := List.forall_mem_cons.mp admitted
    by_cases met : c.resolve q ∈ seen
    · have less : c.weight pending seen ≤ n := by
        unfold weight at enough ⊢
        rw [List.length_cons] at enough
        omega
      obtain ⟨pended, closed⟩ := ih others less
      rw [walk_of_mem met]
      refine ⟨List.forall_mem_cons.mpr ⟨List.mem_cons_self, fun p hp => ?_⟩, ?_⟩
      · exact List.mem_cons_of_mem _ (pended p hp)
      · intro s hs fresh t found p hp
        rcases List.mem_cons.mp hs with rfl | hs
        · exact absurd met fresh
        · exact List.mem_cons_of_mem _ (closed s hs fresh t found p hp)
    · have less := h.weight_lt first pending met
      have admitted' : ∀ p ∈ ((c.find? q).map EntityType.references).getD [] ++ pending,
          c.Admits p := by
        refine List.forall_mem_append.mpr ⟨?_, others⟩
        cases found : c.find? q with
        | none => simp
        | some t => exact h.admitted t (mem_types_of_find? found)
      obtain ⟨pended, closed⟩ := ih admitted' (Nat.le_of_lt_succ (Nat.lt_of_lt_of_le less enough))
      rw [walk_of_notMem met]
      refine ⟨List.forall_mem_cons.mpr ⟨List.mem_cons_self, fun p hp => ?_⟩, ?_⟩
      · exact List.mem_cons_of_mem _ (pended p (List.mem_append_right _ hp))
      · intro s hs fresh t found p hp
        refine List.mem_cons_of_mem _ ?_
        by_cases same : s = c.resolve q
        · -- what the type met first refers to was made pending
          rw [same, find?_resolve] at found
          rw [found] at pended ⊢
          exact pended p (List.mem_append_left _ hp)
        · have later := (List.mem_cons.mp hs).resolve_left same
          exact closed s later (by simp [same, fresh]) t found p hp

/-- **What is met going from a type is what the type reaches.** -/
theorem Ordered.mem_referencesFrom_iff (h : c.Ordered) (hr : c.Admits r) :
    s ∈ c.referencesFrom r ↔ c.Reaches r s := by
  have enough : c.weight [r] [] ≤ c.references := by
    have total (types : List EntityType) :
        types.foldr (fun t n => t.references.length + n) 2 = unseenOf [] types + 2 := by
      induction types with
      | nil => rfl
      | cons t types ih =>
        rw [List.foldr_cons, ih, unseenOf, Nat.add_assoc]
        rfl
    rw [references, total, weight, List.length_singleton]
    omega
  obtain ⟨pended, closed⟩ := h.mem_walk (by simpa using hr) enough
  constructor
  · exact reaches_of_mem_walk (by simpa using .itself)
  · intro reached
    induction reached with
    | itself => exact pended r List.mem_cons_self
    | along _ found refers ih => exact closed _ ih (by simp) _ found _ refers

/-- Something is always looked at. -/
theorem exists_references (c : Catalog) : ∃ n, c.references = n + 1 := by
  unfold references
  cases c.types with
  | nil => exact ⟨1, rfl⟩
  | cons t types =>
    have total : types.foldr (fun t n => t.references.length + n) 2 ≠ 0 := by
      induction types with
      | nil => simp
      | cons t types ih => simpa using fun _ => ih
    exact Nat.exists_eq_add_one_of_ne_zero (by simpa using fun _ => total)

theorem unresolved?_resolve (c : Catalog) (q : EntityRef) :
    c.unresolved? (c.resolve q) = c.unresolved? q := by
  obtain ⟨n, enough⟩ := c.exists_references
  rw [unresolved?, unresolved?, enough, search?, search?, resolve_resolve]

theorem isSuited_resolve (c : Catalog) (q : EntityRef) :
    c.isSuited (c.resolve q) = c.isSuited q := by
  obtain ⟨n, enough⟩ := c.exists_references
  rw [isSuited, isSuited, referencesFrom, referencesFrom, enough, walk, walk, resolve_resolve]

/-! ### What is asked of all types reached -/

/-- The search finds nothing where all that is met for the first time is resolved. -/
theorem search?_eq_none_iff {n : Nat} {pending seen : List EntityRef} :
    c.search? n pending seen = none ↔
      ∀ s ∈ c.walk n pending seen, s ∉ seen → c.Resolved s := by
  induction n generalizing pending seen with
  | zero => simp [search?, walk]
  | succ n ih =>
    rcases pending with _ | ⟨q, pending⟩
    · simp [search?, walk]
    by_cases met : c.resolve q ∈ seen
    · rw [walk_of_mem met, search?, if_pos (List.contains_iff_mem.mpr met), ih,
        List.forall_mem_cons]
      exact ⟨fun others => ⟨fun fresh => absurd met fresh, others⟩, And.right⟩
    · rw [walk_of_notMem met, search?, if_neg (mt List.contains_iff_mem.mp met), find?_resolve,
        List.forall_mem_cons]
      -- past the type met first, what is said of it is said once
      have once (first : c.Resolved (c.resolve q)) {met : List EntityRef} :
          (∀ s ∈ met, s ∉ c.resolve q :: seen → c.Resolved s) ↔
            ∀ s ∈ met, s ∉ seen → c.Resolved s := by
        refine ⟨fun others s hs fresh => ?_, fun others s hs fresh => ?_⟩
        · by_cases same : s = c.resolve q
          · exact same ▸ first
          · exact others s hs (by simp [same, fresh])
        · exact others s hs fun met => fresh (List.mem_cons_of_mem _ met)
      cases found : c.find? q with
      | none =>
        have first : c.Resolved (c.resolve q) := fun t ht => by
          rw [find?_resolve, found] at ht
          cases ht
        exact ih.trans ((once first).trans (by simp [met, first]))
      | some t =>
        have first_iff : c.Resolved (c.resolve q) ↔ ∀ p ∈ t.references, c.knows p = true := by
          simp [Resolved, found]
        dsimp only
        split
        · next missing hm =>
          have unknown : c.knows missing = false := by simpa using List.find?_some hm
          refine ⟨fun none => (nomatch none), fun ⟨first, _⟩ => ?_⟩
          have known := first_iff.mp (first met) missing (List.mem_of_find?_eq_some hm)
          rw [unknown] at known
          cases known
        · next all =>
          have first := first_iff.mpr fun p hp => by simpa using List.find?_eq_none.mp all p hp
          exact ih.trans ((once first).trans (by simp [met, first]))

/-- **Nothing is unresolved where all that is reached is resolved.** -/
theorem Ordered.unresolved?_eq_none_iff (h : c.Ordered) (hr : c.Admits r) :
    c.unresolved? r = none ↔ ∀ s, c.Reaches r s → c.Resolved s := by
  rw [unresolved?, Option.map_eq_none_iff, search?_eq_none_iff]
  exact ⟨fun known s hs => known s ((h.mem_referencesFrom_iff hr).mpr hs) (by simp),
    fun known s hs _ => known s ((h.mem_referencesFrom_iff hr).mp hs)⟩

/-- **A type is suited if all types reached are.** -/
theorem Ordered.isSuited_iff (h : c.Ordered) (hr : c.Admits r) :
    c.isSuited r = true ↔ ∀ s, c.Reaches r s → ∀ t, c.find? s = some t → t.isSuited = true := by
  simp only [isSuited, List.all_eq_true, h.mem_referencesFrom_iff hr, Option.all_eq_true]

end GraphMapper.Catalog
