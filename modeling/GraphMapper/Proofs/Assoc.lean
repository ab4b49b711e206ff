import GraphMapper.Assoc
import Mathlib.Data.List.Induction
import Mathlib.Logic.Function.Basic

/-!
# What an ordered map holds

A map that was built entry by entry holds, under each key, what the *last* entry with this
key says: `GraphMapper.Assoc.lookup_update` says so for entries set into a map, and
`GraphMapper.Assoc.lookup_ofEntries` for a map made of entries alone. Which keys a map has,
and in which order, depends on the keys of the entries and on nothing else
(`GraphMapper.Assoc.keys_ofEntries_congr`).

A map need not be made of keys for which equality is an identity: it only keeps them apart
(`GraphMapper.Assoc.apart_ofEntries`).

Maps are also renamed: keys get a prefix, or names become values. A renaming that tells the
same keys apart commutes with everything (`GraphMapper.Assoc.ofEntries_map`).
-/

namespace GraphMapper.Assoc

variable {α β γ δ : Type} [BEq α] [BEq γ]

/-! ### The keys of a map -/

/-- Setting a key changes the keys in a way that does not depend on the values. -/
theorem keys_set_congr {entries entries' : List (α × β)} (h : keys entries = keys entries')
    (key : α) (value value' : β) :
    keys (set key value entries) = keys (set key value' entries') := by
  induction entries generalizing entries' with
  | nil =>
    obtain rfl : entries' = [] := by simpa [keys] using h.symm
    rfl
  | cons e rest ih =>
    rcases entries' with _ | ⟨e', rest'⟩
    · simp [keys] at h
    obtain ⟨he, hr⟩ : e.1 = e'.1 ∧ keys rest = keys rest' := by simpa [keys] using h
    rw [set, set, he]
    split
    · simp [hr]
    · simp [ih hr]

theorem keys_update_congr {entries entries' more more' : List (α × β)}
    (h : keys entries = keys entries') (hm : keys more = keys more') :
    keys (update entries more) = keys (update entries' more') := by
  induction more generalizing entries entries' more' with
  | nil =>
    obtain rfl : more' = [] := by simpa [keys] using hm.symm
    exact h
  | cons e rest ih =>
    rcases more' with _ | ⟨e', rest'⟩
    · simp [keys] at hm
    obtain ⟨he, hr⟩ : e.1 = e'.1 ∧ keys rest = keys rest' := by simpa [keys] using hm
    rw [update_cons, update_cons, he]
    exact ih (keys_set_congr h _ _ _) hr

/-- **The keys of a map depend on the keys of its entries only.** -/
theorem keys_ofEntries_congr {entries entries' : List (α × β)} (h : keys entries = keys entries') :
    keys (ofEntries entries) = keys (ofEntries entries') :=
  keys_update_congr rfl h

/-- Setting a key removes none. -/
theorem mem_keys_set_of_mem {a : α} {entries : List (α × β)} (h : a ∈ keys entries) (key : α)
    (value : β) : a ∈ keys (set key value entries) := by
  induction entries with
  | nil => simp [keys] at h
  | cons e rest ih =>
    rw [set]
    split
    · simpa [keys] using h
    · rcases List.mem_cons.mp h with rfl | hr
      · simp [keys]
      · exact List.mem_cons_of_mem _ (ih hr)

theorem mem_keys_update_of_mem {a : α} {entries : List (α × β)} (h : a ∈ keys entries)
    (more : List (α × β)) : a ∈ keys (update entries more) := by
  induction more generalizing entries with
  | nil => exact h
  | cons e rest ih => exact ih (mem_keys_set_of_mem h _ _)

/-- Setting a key leaves one that is the key, or equal to it. -/
theorem exists_mem_keys_set (key : α) (value : β) (entries : List (α × β)) :
    ∃ b ∈ keys (set key value entries), b = key ∨ (b == key) = true := by
  induction entries with
  | nil => exact ⟨key, by simp [keys], .inl rfl⟩
  | cons e rest ih =>
    rw [set]
    split
    · next hk => exact ⟨e.1, by simp [keys], .inr hk⟩
    · obtain ⟨b, hb, h⟩ := ih
      exact ⟨b, List.mem_cons_of_mem _ hb, h⟩

theorem exists_mem_keys_update {a : α} {more : List (α × β)} (h : a ∈ keys more)
    (entries : List (α × β)) : ∃ b ∈ keys (update entries more), b = a ∨ (b == a) = true := by
  induction more generalizing entries with
  | nil => cases h
  | cons e rest ih =>
    rcases List.mem_cons.mp h with rfl | hr
    · obtain ⟨b, hb, hba⟩ := exists_mem_keys_set e.1 e.2 entries
      exact ⟨b, mem_keys_update_of_mem hb rest, hba⟩
    · exact ih hr _

theorem update_append (entries more others : List (α × β)) :
    update entries (more ++ others) = update (update entries more) others :=
  List.foldl_append

/-! ### Keys that are told apart

Keys need not be equal to themselves, and equality need not be symmetric. All the same a map keeps
its keys apart, each from those that come after it, and this is all it takes to be a map. -/

/-- No key is equal to one that comes after it. -/
def Apart (entries : List (α × β)) : Prop :=
  (keys entries).Pairwise fun a b => (a == b) = false

/-- A key that is told apart from all others is appended. -/
theorem set_of_apart {key : α} {entries : List (α × β)}
    (h : ∀ a ∈ keys entries, (a == key) = false) (value : β) :
    set key value entries = entries ++ [(key, value)] := by
  induction entries with
  | nil => rfl
  | cons e rest ih =>
    obtain ⟨first, others⟩ := List.forall_mem_cons.mp h
    rw [set, if_neg (by simp [first]), ih others]
    rfl

/-- Setting a key changes no key, or appends one that is told apart from all others. -/
theorem keys_set_cases (key : α) (value : β) (entries : List (α × β)) :
    keys (set key value entries) = keys entries ∨
      keys (set key value entries) = keys entries ++ [key] ∧
        ∀ a ∈ keys entries, (a == key) = false := by
  induction entries with
  | nil => exact .inr ⟨rfl, by simp⟩
  | cons e rest ih =>
    rw [set]
    split
    · exact .inl rfl
    · next miss =>
      rcases ih with same | ⟨appended, apart⟩
      · exact .inl (by rw [keys_cons, keys_cons, same])
      · refine .inr ⟨by rw [keys_cons, keys_cons, appended]; rfl, ?_⟩
        exact List.forall_mem_cons.mpr ⟨by simpa using miss, apart⟩

theorem Apart.set {entries : List (α × β)} (h : Apart entries) (key : α) (value : β) :
    Apart (set key value entries) := by
  unfold Apart
  rcases keys_set_cases key value entries with same | ⟨appended, apart⟩
  · rw [same]
    exact h
  · rw [appended]
    refine List.pairwise_append.mpr ⟨h, List.pairwise_singleton _ _, fun a ha b hb => ?_⟩
    obtain rfl := List.mem_singleton.mp hb
    exact apart a ha

/-- **A map keeps its keys apart.** -/
theorem apart_ofEntries (entries : List (α × β)) : Apart (ofEntries entries) := by
  have grow (more acc : List (α × β)) (h : Apart acc) : Apart (update acc more) := by
    induction more generalizing acc with
    | nil => exact h
    | cons e rest ih => exact ih _ (h.set e.1 e.2)
  exact grow entries [] .nil

/-- Entries whose keys are told apart, from those of a map too, are appended as they are. -/
theorem update_of_apart {entries more : List (α × β)} (h : Apart (entries ++ more)) :
    update entries more = entries ++ more := by
  induction more generalizing entries with
  | nil => simp
  | cons e rest ih =>
    have apart : ∀ a ∈ keys entries, (a == e.1) = false := by
      intro a ha
      unfold Apart keys at h
      rw [List.map_append] at h
      exact (List.pairwise_append.mp h).2.2 a ha e.1 (by simp)
    rw [update_cons, set_of_apart apart, ih (by simpa using h)]
    simp

/-- **What keeps its keys apart is a map already.** -/
theorem ofEntries_of_apart {entries : List (α × β)} (h : Apart entries) :
    ofEntries entries = entries :=
  (update_of_apart (by rwa [List.nil_append])).trans (List.nil_append entries)

/-- A map holds the keys and the values of its entries, and nothing else. -/
theorem forall_mem_ofEntries {P : α → Prop} {Q : β → Prop} {entries : List (α × β)}
    (h : ∀ e ∈ entries, P e.1 ∧ Q e.2) : ∀ e ∈ ofEntries entries, P e.1 ∧ Q e.2 := by
  have put (key : α) (value : β) (hk : P key) (hv : Q value) (acc : List (α × β))
      (ha : ∀ e ∈ acc, P e.1 ∧ Q e.2) : ∀ e ∈ Assoc.set key value acc, P e.1 ∧ Q e.2 := by
    induction acc with
    | nil => simpa using ⟨hk, hv⟩
    | cons e rest ih =>
      obtain ⟨first, others⟩ := List.forall_mem_cons.mp ha
      rw [Assoc.set]
      split
      · exact List.forall_mem_cons.mpr ⟨⟨first.1, hv⟩, others⟩
      · exact List.forall_mem_cons.mpr ⟨first, ih others⟩
  have grow (more acc : List (α × β)) (hm : ∀ e ∈ more, P e.1 ∧ Q e.2)
      (ha : ∀ e ∈ acc, P e.1 ∧ Q e.2) : ∀ e ∈ update acc more, P e.1 ∧ Q e.2 := by
    induction more generalizing acc with
    | nil => exact ha
    | cons e rest ih =>
      obtain ⟨first, others⟩ := List.forall_mem_cons.mp hm
      exact ih _ others (put e.1 e.2 first.1 first.2 acc ha)
  exact grow entries [] h (by simp)

/-! ### Renaming -/

section Renaming

variable {f : α → γ} (hf : ∀ a b, (f a == f b) = (a == b)) (g : β → δ)

include hf

theorem set_map (key : α) (value : β) (entries : List (α × β)) :
    set (f key) (g value) (entries.map (Prod.map f g)) =
      (set key value entries).map (Prod.map f g) := by
  induction entries with
  | nil => rfl
  | cons e rest ih =>
    rw [List.map_cons, set, set, Prod.map_fst, hf]
    split
    · rfl
    · rw [ih]
      rfl

theorem update_map (entries more : List (α × β)) :
    update (entries.map (Prod.map f g)) (more.map (Prod.map f g)) =
      (update entries more).map (Prod.map f g) := by
  induction more generalizing entries with
  | nil => rfl
  | cons e rest ih => rw [List.map_cons, update_cons, update_cons, ← ih, ← set_map hf g]; rfl

/-- **Renaming before or after making a map is the same.** -/
theorem ofEntries_map (entries : List (α × β)) :
    ofEntries (entries.map (Prod.map f g)) = (ofEntries entries).map (Prod.map f g) :=
  update_map hf g [] entries

theorem lookup_map (key : α) (entries : List (α × β)) :
    (entries.map (Prod.map f g)).lookup (f key) = (entries.lookup key).map g := by
  induction entries with
  | nil => rfl
  | cons e rest ih =>
    rw [List.map_cons, Prod.map, List.lookup_cons, List.lookup_cons, hf]
    split
    · rfl
    · exact ih

end Renaming

/-! ### What a map holds -/

section Lawful

variable [LawfulBEq α]

omit [BEq γ] in
theorem lookup_eq_none_iff {key : α} {entries : List (α × β)} :
    entries.lookup key = none ↔ key ∉ keys entries := by
  rw [List.lookup_eq_none_iff, keys, List.mem_map]
  constructor
  · rintro h ⟨e, he, rfl⟩
    simpa using h e he
  · intro h e he
    simpa using fun hk : key = e.1 => h ⟨e, he, hk.symm⟩

omit [BEq γ] in
/-- Under each of its keys a map holds something. -/
theorem exists_lookup_of_mem_keys {key : α} {entries : List (α × β)} (h : key ∈ keys entries) :
    ∃ value, entries.lookup key = some value := by
  cases hl : entries.lookup key with
  | none => exact absurd h (lookup_eq_none_iff.mp hl)
  | some value => exact ⟨value, rfl⟩

omit [BEq γ] in
/-- What a map holds is one of its entries. -/
theorem mem_of_lookup {key : α} {value : β} {entries : List (α × β)}
    (h : entries.lookup key = some value) : (key, value) ∈ entries := by
  induction entries with
  | nil => cases h
  | cons e rest ih =>
    rw [List.lookup_cons] at h
    by_cases hk : key = e.1
    · rw [hk, beq_self_eq_true] at h
      rw [hk, ← Option.some.inj h]
      exact List.mem_cons_self
    · rw [beq_eq_false_iff_ne.mpr hk] at h
      exact List.mem_cons_of_mem _ (ih h)

omit [BEq γ] in
theorem mem_keys_of_lookup {key : α} {value : β} {entries : List (α × β)}
    (h : entries.lookup key = some value) : key ∈ keys entries :=
  List.mem_map_of_mem (mem_of_lookup h)

/-- **What is set last counts.** -/
theorem lookup_update (entries more : List (α × β)) (key : α) :
    (update entries more).lookup key = (more.reverse.lookup key).or (entries.lookup key) := by
  induction more generalizing entries with
  | nil => rfl
  | cons e rest ih =>
    rw [update_cons, ih, List.reverse_cons, List.lookup_append, Option.or_assoc]
    congr 1
    by_cases hk : key = e.1
    · rw [hk, lookup_set_self, List.lookup_cons, beq_self_eq_true]
      rfl
    · rw [lookup_set_of_ne hk, List.lookup_cons, beq_eq_false_iff_ne.mpr hk]
      rfl

/-- **A map of entries holds what the last entry with a key says.** -/
theorem lookup_ofEntries (entries : List (α × β)) (key : α) :
    (ofEntries entries).lookup key = entries.reverse.lookup key := by
  rw [ofEntries, lookup_update]
  simp

/-- A new key can be set before or after the others. -/
theorem update_set_of_notMem {key : α} {more : List (α × β)} (h : key ∉ keys more) (value : β)
    (entries : List (α × β)) :
    update entries (set key value more) = set key value (update entries more) := by
  rw [set_of_not_mem h, update_append]
  rfl

theorem mem_keys_update (entries more : List (α × β)) (a : α) :
    a ∈ keys (update entries more) ↔ a ∈ keys entries ∨ a ∈ keys more := by
  induction more generalizing entries with
  | nil => simp
  | cons e rest ih =>
    rw [update_cons, ih, mem_keys_set, keys_cons, List.mem_cons, or_assoc, or_left_comm]

theorem mem_keys_ofEntries (entries : List (α × β)) (a : α) :
    a ∈ keys (ofEntries entries) ↔ a ∈ keys entries := by
  rw [ofEntries, mem_keys_update]
  simp

omit [BEq γ] in
/-- Of two values set under a key, the last counts. -/
theorem set_set (key : α) (value other : β) (entries : List (α × β)) :
    set key other (set key value entries) = set key other entries := by
  induction entries with
  | nil => simp [set]
  | cons e rest ih =>
    by_cases same : e.1 == key
    · simp [set, same]
    · simp [set, same, ih]

/-- In a map the last entry with a key is the only one. -/
theorem lookup_reverse_of_nodup {entries : List (α × β)} (h : (keys entries).Nodup) (key : α) :
    entries.reverse.lookup key = entries.lookup key := by
  rw [← lookup_ofEntries, ofEntries_of_nodup h]

/-- Where no key comes twice, each entry is what the map holds under its key. -/
theorem lookup_of_mem {key : α} {value : β} {entries : List (α × β)} (h : (keys entries).Nodup)
    (he : (key, value) ∈ entries) : entries.lookup key = some value := by
  induction entries with
  | nil => cases he
  | cons e rest ih =>
    obtain ⟨fresh, distinct⟩ := List.nodup_cons.mp h
    rw [List.lookup_cons]
    rcases List.mem_cons.mp he with rfl | he
    · rw [beq_self_eq_true]
    · have other : key ≠ e.1 := fun same => fresh (same ▸ List.mem_map_of_mem he)
      rw [beq_eq_false_iff_ne.mpr other]
      exact ih distinct he

/-! ### Updating -/

theorem nodup_keys_update {entries : List (α × β)} (h : (keys entries).Nodup)
    (more : List (α × β)) : (keys (update entries more)).Nodup := by
  induction more generalizing entries with
  | nil => exact h
  | cons e rest ih => exact ih (nodup_keys_set h e.1 e.2)

/-- An update holds nothing but the entries of both. -/
theorem mem_or_mem_of_mem_update {e : α × β} {entries more : List (α × β)}
    (h : e ∈ update entries more) : e ∈ entries ∨ e ∈ more := by
  have put (key : α) (value : β) (acc : List (α × β)) (h : e ∈ set key value acc) :
      e = (key, value) ∨ e ∈ acc := by
    induction acc with
    | nil => exact .inl (List.mem_singleton.mp h)
    | cons o rest ih =>
      rw [set] at h
      split at h
      · next same =>
        rw [beq_iff_eq.mp same] at h
        exact (List.mem_cons.mp h).imp_right (List.mem_cons_of_mem _)
      · rcases List.mem_cons.mp h with rfl | h
        · exact .inr List.mem_cons_self
        · exact (ih h).imp_right (List.mem_cons_of_mem _)
  induction more generalizing entries with
  | nil => exact .inl h
  | cons o rest ih =>
    rcases ih h with h | h
    · exact (put o.1 o.2 entries h).elim (fun same => .inr (same ▸ List.mem_cons_self)) .inl
    · exact .inr (List.mem_cons_of_mem _ h)

/-- A map made of entries has their keys in the order in which they first came, each once. -/
theorem keys_ofEntries (entries : List (α × β)) :
    keys (ofEntries entries) = (keys entries).eraseDups := by
  induction entries using List.reverseRecOn with
  | nil => rfl
  | append_singleton rest e ih =>
    have last : ofEntries (rest ++ [e]) = set e.1 e.2 (ofEntries rest) := update_append [] rest [e]
    have split (xs : List (α × β)) : keys (xs ++ [e]) = keys xs ++ [e.1] := List.map_append
    rw [last, split, List.eraseDups_append, ← ih]
    by_cases old : e.1 ∈ keys rest
    · rw [keys_set_of_mem ((mem_keys_ofEntries rest e.1).mpr old)]
      simp [List.removeAll, old]
    · rw [set_of_not_mem (mt (mem_keys_ofEntries rest e.1).mp old), split]
      simp [List.removeAll, old, List.eraseDups_cons]

theorem nodup_eraseDups (names : List α) : names.eraseDups.Nodup := by
  have whole : keys (names.map fun name => (name, ())) = names := by
    rw [keys, List.map_map]
    exact List.map_id names
  have := nodup_keys_ofEntries (names.map fun name => (name, ()))
  rwa [keys_ofEntries, whole] at this

/-- In a map, the order of the entries makes no difference to what is found. -/
theorem lookup_of_perm {entries others : List (α × β)} (apart : (keys entries).Nodup)
    (perm : entries.Perm others) (key : α) : entries.lookup key = others.lookup key := by
  have apart' : (keys others).Nodup := (perm.map Prod.fst).nodup_iff.mp apart
  cases found : entries.lookup key with
  | some v => exact (lookup_of_mem apart' (perm.mem_iff.mp (mem_of_lookup found))).symm
  | none =>
    rw [lookup_eq_none_iff] at found
    exact (lookup_eq_none_iff.mpr fun hk => found ((perm.map Prod.fst).mem_iff.mpr hk)).symm

end Lawful

end GraphMapper.Assoc
