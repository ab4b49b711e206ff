/-!
# Ordered maps

Maps keep their entries in the order in which the keys first came. They are plain lists of
pairs; **setting** a key that is there replaces the value in place and keeps the old key,
setting a new key appends. `List.lookup` reads them: `lookup_set_self` and `lookup_set_of_ne`
say what it finds after a key has been set.

A list of pairs need not be a map. `ofEntries` makes it one, and leaves it alone if no key
comes twice (`ofEntries_of_nodup`).
-/

namespace GraphMapper.Assoc

variable {α β γ : Type} [BEq α]

/-- The map with the value of a key set. -/
def set (key : α) (value : β) : List (α × β) → List (α × β)
  | [] => [(key, value)]
  | (k, v) :: rest => if k == key then (k, value) :: rest else (k, v) :: set key value rest

/-- The map with every entry of another set, one after the other. -/
def update (entries : List (α × β)) (more : List (α × β)) : List (α × β) :=
  more.foldl (fun m e => set e.1 e.2 m) entries

/-- The map of a list of entries, later ones prevailing. -/
def ofEntries (entries : List (α × β)) : List (α × β) := update [] entries

/-- The keys of a map, in order. -/
def keys (entries : List (α × β)) : List α := entries.map Prod.fst

@[simp] theorem set_nil (key : α) (value : β) : set key value [] = [(key, value)] := rfl

@[simp] theorem update_nil (entries : List (α × β)) : update entries [] = entries := rfl

@[simp] theorem update_cons (entries more : List (α × β)) (e : α × β) :
    update entries (e :: more) = update (set e.1 e.2 entries) more := rfl

omit [BEq α] in
@[simp] theorem keys_nil : keys ([] : List (α × β)) = [] := rfl

omit [BEq α] in
@[simp] theorem keys_cons (e : α × β) (entries : List (α × β)) :
    keys (e :: entries) = e.1 :: keys entries := rfl

/-! ### Keys after setting -/

section Lawful

variable [LawfulBEq α]

/-- Setting a key that is there changes no key. -/
theorem keys_set_of_mem {key : α} {entries : List (α × β)} (h : key ∈ keys entries) (value : β) :
    keys (set key value entries) = keys entries := by
  induction entries with
  | nil => simp at h
  | cons e rest ih =>
    obtain ⟨k, v⟩ := e
    by_cases hk : k = key
    · simp [set, hk]
    · have : key ∈ keys rest := by simpa [Ne.symm hk] using h
      simp [set, hk, ih this]

/-- Setting a new key appends. -/
theorem set_of_not_mem {key : α} {entries : List (α × β)} (h : key ∉ keys entries) (value : β) :
    set key value entries = entries ++ [(key, value)] := by
  induction entries with
  | nil => rfl
  | cons e rest ih =>
    obtain ⟨k, v⟩ := e
    have hk : ¬ k = key := fun hk => h (by simp [hk])
    have hr : key ∉ keys rest := fun hr => h (by simp [hr])
    simp [set, hk, ih hr]

@[simp] theorem mem_keys_set (key : α) (value : β) (entries : List (α × β)) (a : α) :
    a ∈ keys (set key value entries) ↔ a = key ∨ a ∈ keys entries := by
  by_cases h : key ∈ keys entries
  · rw [keys_set_of_mem h]
    exact ⟨.inr, fun ha => ha.elim (fun e => e ▸ h) id⟩
  · simp [set_of_not_mem h, keys, or_comm]

/-- A map stays one when a key is set. -/
theorem nodup_keys_set {entries : List (α × β)} (h : (keys entries).Nodup) (key : α) (value : β) :
    (keys (set key value entries)).Nodup := by
  by_cases hk : key ∈ keys entries
  · rwa [keys_set_of_mem hk]
  · have : keys (entries ++ [(key, value)]) = keys entries ++ [key] := by simp [keys]
    rw [set_of_not_mem hk, this, List.nodup_append]
    refine ⟨h, by simp, fun a ha b hb hab => hk ?_⟩
    rwa [← List.mem_singleton.mp hb, ← hab]

/-! ### Reading after setting -/

@[simp] theorem lookup_set_self (key : α) (value : β) (entries : List (α × β)) :
    (set key value entries).lookup key = some value := by
  induction entries with
  | nil => simp
  | cons e rest ih =>
    obtain ⟨k, v⟩ := e
    by_cases hk : k = key
    · simp [set, hk]
    · have : (key == k) = false := by simpa using Ne.symm hk
      simp [set, hk, List.lookup_cons, this, ih]

/-- Setting a key leaves what other keys hold. -/
theorem lookup_set_of_ne {key other : α} (h : other ≠ key) (value : β) (entries : List (α × β)) :
    (set key value entries).lookup other = entries.lookup other := by
  have miss : (other == key) = false := by simpa using h
  induction entries with
  | nil => simp [List.lookup_cons, miss]
  | cons e rest ih =>
    obtain ⟨k, v⟩ := e
    by_cases hk : k = key
    · subst hk
      simp [set, List.lookup_cons, miss]
    · simp [set, hk, List.lookup_cons, ih]

/-! ### Lists of pairs that are maps -/

/-- Entries with new keys, none of them twice, are appended as they are. -/
theorem update_of_disjoint {entries more : List (α × β)} (h : (keys more).Nodup)
    (hd : ∀ a ∈ keys more, a ∉ keys entries) : update entries more = entries ++ more := by
  induction more generalizing entries with
  | nil => simp
  | cons e rest ih =>
    obtain ⟨k, v⟩ := e
    obtain ⟨hk, hr⟩ := List.nodup_cons.mp h
    have hn : k ∉ keys entries := hd k (by simp)
    rw [update_cons, set_of_not_mem hn, ih hr]
    · simp
    · intro a ha
      have hak : a ≠ k := fun hak => hk (hak ▸ ha)
      simpa [keys, hak] using hd a (by simp [ha])

/-- A list in which no key comes twice is a map already. -/
theorem ofEntries_of_nodup {entries : List (α × β)} (h : (keys entries).Nodup) :
    ofEntries entries = entries :=
  (update_of_disjoint h (by simp)).trans (List.nil_append entries)

/-- In a map no key comes twice. -/
theorem nodup_keys_ofEntries (entries : List (α × β)) : (keys (ofEntries entries)).Nodup := by
  have grow (more acc : List (α × β)) (h : (keys acc).Nodup) : (keys (update acc more)).Nodup := by
    induction more generalizing acc with
    | nil => exact h
    | cons e rest ih => exact ih _ (nodup_keys_set h e.1 e.2)
  exact grow entries [] (by simp)

end Lawful

end GraphMapper.Assoc
