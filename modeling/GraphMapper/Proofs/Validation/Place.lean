import GraphMapper.Proofs.Instances

/-!
# Validation in another place

A map may be validated by itself, or as part of another map that is validated. The outcome is the
same, as long as there is room: instances of some types may only be nested so and so deeply, which
ones and how deeply is a matter of what is around them, and so is how far down maps are followed.

A type expression hands nothing but the value and parts of it on to the entity types it comes to.
So what it makes of the value is the same under two readings of entity types that are the same on
the value and its parts (`GraphMapper.TypeExpr.accept_congr`). By induction on how deeply the value
is nested, it is the same in any two places with room for that
(`GraphMapper.Catalog.acceptEntity_congr`). In one and the same place no room is needed: all that
matters is that maps can be followed far enough down. So an instance depends on what is given for
its fields, and on nothing else in the map that it is made of
(`GraphMapper.Catalog.construct_congr`).
-/

namespace GraphMapper

open Checked Outcome

/-! ### Parts of values -/

namespace Value

mutual

/-- Whether the keys of all mappings in a value are texts. -/
def hasTextKeys : Value → Bool
  | .list items => itemsHaveTextKeys items
  | .map entries | .node entries | .itemized entries => entriesHaveTextKeys entries
  | _ => true

/-- Whether the keys of all mappings in some items are texts. -/
def itemsHaveTextKeys : List Value → Bool
  | [] => true
  | v :: rest => v.hasTextKeys && itemsHaveTextKeys rest

/-- Whether the keys of some entries, and those of all mappings in them, are texts. -/
def entriesHaveTextKeys : List (Value × Value) → Bool
  | [] => true
  | (k, v) :: rest => k.text?.isSome && (v.hasTextKeys && entriesHaveTextKeys rest)

end

/-- Values as property maps hold them: nested at most so deeply, with texts for keys. -/
structure Within (depth : Nat) (v : Value) : Prop where
  /-- It is nested at most so deeply. -/
  depth_le : v.depth ≤ depth
  /-- Its keys are texts. -/
  keys : v.hasTextKeys = true

variable {depth : Nat} {v : Value} {items : List Value} {entries : Entries} {e : Value × Value}

theorem depth_le_itemsDepth (h : v ∈ items) : v.depth ≤ itemsDepth items := by
  induction items with
  | nil => cases h
  | cons w rest ih =>
    rw [itemsDepth]
    rcases List.mem_cons.mp h with rfl | h
    · exact Nat.le_max_left _ _
    · exact Nat.le_trans (ih h) (Nat.le_max_right _ _)

theorem depth_le_entriesDepth (h : e ∈ entries) :
    e.1.depth ≤ entriesDepth entries ∧ e.2.depth ≤ entriesDepth entries := by
  induction entries with
  | nil => cases h
  | cons e' rest ih =>
    obtain ⟨k, v⟩ := e'
    rw [entriesDepth]
    rcases List.mem_cons.mp h with rfl | h
    · exact ⟨Nat.le_trans (Nat.le_max_left _ _) (Nat.le_max_left _ _),
        Nat.le_trans (Nat.le_max_right _ _) (Nat.le_max_left _ _)⟩
    · exact ⟨Nat.le_trans (ih h).1 (Nat.le_max_right _ _),
        Nat.le_trans (ih h).2 (Nat.le_max_right _ _)⟩

/-- An item of a list is nested no more deeply than the list. -/
theorem depth_le_of_mem_list (h : (Value.list items).depth ≤ depth) (hv : v ∈ items) :
    v.depth ≤ depth :=
  Nat.le_trans (depth_le_itemsDepth hv) (Nat.le_of_succ_le h)

/-- A mapping has entries that are nested less deeply. -/
theorem entriesDepth_lt (h : v.depth ≤ depth) (hv : v.mapping? = some entries) :
    entriesDepth entries < depth := by
  cases v <;> cases hv <;> exact h

/-- A key and a value of a mapping are nested no more deeply than the mapping. -/
theorem depth_le_of_mem_mapping (h : v.depth ≤ depth) (hv : v.mapping? = some entries)
    (he : e ∈ entries) : e.1.depth ≤ depth ∧ e.2.depth ≤ depth :=
  have less := Nat.le_of_lt (entriesDepth_lt h hv)
  ⟨Nat.le_trans (depth_le_entriesDepth he).1 less, Nat.le_trans (depth_le_entriesDepth he).2 less⟩

end Value

/-! ### Readings of entity types that are the same on a value and its parts -/

section

variable {item item' : Value → Checked Accepted} {b : Bounds}

theorem acceptEach_congr {items : List Value} (h : ∀ v ∈ items, item v = item' v) :
    acceptEach item items = acceptEach item' items := by
  refine congrArg gather (List.ext_getElem (by simp) fun n hn _ => ?_)
  simp only [List.getElem_mapIdx]
  rw [h _ (List.getElem_mem _)]

theorem acceptItems_congr {items : List Value} (h : ∀ v ∈ items, item v = item' v) :
    acceptItems b item items = acceptItems b item' items := by
  have first (n : Nat) : acceptEach item (items.take n) = acceptEach item' (items.take n) :=
    acceptEach_congr fun v hv => h v (List.mem_of_mem_take hv)
  unfold acceptItems
  simp only [first, acceptEach_congr h]

theorem acceptDistinct_congr {longest : Option Nat} {items : List Value}
    (h : ∀ v ∈ items, item v = item' v) (n : Nat) (kept : List Value) (found : List Issue) :
    acceptDistinct longest item n kept found items =
      acceptDistinct longest item' n kept found items := by
  induction items generalizing n kept found with
  | nil => rfl
  | cons v rest ih =>
    obtain ⟨first, others⟩ := List.forall_mem_cons.mp h
    rw [acceptDistinct, acceptDistinct, first]
    simp only [ih others]

theorem acceptSet_congr {frozen : Bool} {items : List Value} (h : ∀ v ∈ items, item v = item' v) :
    acceptSet b frozen item items = acceptSet b frozen item' items := by
  rw [acceptSet, acceptSet, acceptDistinct_congr h]

/-- A collection depends on what becomes of its items. -/
theorem CollectionKind.accept_congr (kind : CollectionKind) (itemType : TypeExpr) {v : Value}
    (h : ∀ items, v = .list items → ∀ w ∈ items, item w = item' w) :
    kind.accept b itemType item v = kind.accept b itemType item' v := by
  by_cases list : ∃ items, v = .list items
  · obtain ⟨items, rfl⟩ := list
    have sets : acceptSet b (kind = .frozenSet) item items =
        acceptSet b (kind = .frozenSet) item' items := acceptSet_congr (h items rfl)
    have lists : acceptItems b item items = acceptItems b item' items :=
      acceptItems_congr (h items rfl)
    unfold CollectionKind.accept
    split
    · simp only [Value.readSequence, ok_bind, lists]
    · rfl
    · simp only [Value.readList, ok_bind, sets, lists]
  · -- There are no items, whatever kind of collection is wanted.
    unfold CollectionKind.accept
    split
    · split
      · rfl
      · cases v with
        | list items => exact absurd ⟨items, rfl⟩ list
        | _ => rfl
    · rfl
    · cases v with
      | list items => exact absurd ⟨items, rfl⟩ list
      | _ => rfl

theorem acceptEntries_congr {key key' value value' : Value → Checked Accepted} {entries : Entries}
    (h : ∀ e ∈ entries, key e.1 = key' e.1 ∧ value e.2 = value' e.2) :
    acceptEntries b key value entries = acceptEntries b key' value' entries := by
  have each : entries.map (acceptEntry key value) = entries.map (acceptEntry key' value') := by
    refine List.map_congr_left fun e he => ?_
    rw [acceptEntry, acceptEntry, (h e he).1, (h e he).2]
  rw [acceptEntries, acceptEntries, each]

end

namespace TypeExpr

variable {f g : EntityRef → Value → Checked Accepted} {depth : Nat}

mutual

/-- **What a type makes of a value** depends on what entity types make of the value and its parts:
by recursion on the type. -/
theorem accept_congr (same : ∀ r (v : Value), v.depth ≤ depth → f r v = g r v) (b : Bounds) :
    ∀ (t : TypeExpr) (v : Value), v.depth ≤ depth → t.accept f b v = t.accept g b v
  | .plain p, v, _ => rfl
  | .entity r, v, hv => same r v hv
  | .enumeration _ members, v, _ => rfl
  | .collection kind item, v, hv => by
    refine kind.accept_congr item ?_
    rintro items rfl w hw
    exact accept_congr same {} item w (Value.depth_le_of_mem_list hv hw)
  | .mapping _ key value, v, hv => by
    rw [accept, accept, Value.readMap]
    cases mapping : v.mapping? with
    | none => rfl
    | some entries =>
      refine acceptEntries_congr fun e he => ?_
      obtain ⟨hk, hx⟩ := Value.depth_le_of_mem_mapping hv mapping he
      exact ⟨accept_congr same {} key e.1 hk, accept_congr same {} value e.2 hx⟩
  | .bare .list, v, _ => rfl
  | .bare .map, v, _ => rfl
  | .union form members, v, hv => by
    rw [accept, accept, acceptMembers_congr same b members v hv]

theorem acceptMembers_congr (same : ∀ r (v : Value), v.depth ≤ depth → f r v = g r v)
    (b : Bounds) : ∀ (members : List TypeExpr) (v : Value), v.depth ≤ depth →
      acceptMembers f b members v = acceptMembers g b members v
  | [], _, _ => rfl
  | t :: rest, v, hv => by
    rw [acceptMembers, acceptMembers, accept_congr same b t v hv,
      acceptMembers_congr same b rest v hv]

end

variable (same : ∀ r (v : Value), v.depth ≤ depth → f r v = g r v)

include same

theorem acceptBounded_congr (b : Bounds) (t : TypeExpr) {v : Value} (hv : v.depth ≤ depth) :
    t.acceptBounded f b v = t.acceptBounded g b v := by
  rw [acceptBounded, acceptBounded]
  dsimp only
  rw [accept_congr same _ t v hv]

theorem acceptWithin_congr (b : Bounds) (t : TypeExpr) {v : Value} (hv : v.depth ≤ depth) :
    t.acceptWithin f b v = t.acceptWithin g b v := by
  unfold acceptWithin
  split
  · split
    · rfl
    · split <;> exact acceptBounded_congr same b _ hv
  · exact acceptBounded_congr same b _ hv

end TypeExpr

/-! ### Instances in two places -/

/-- A value given for a field is nested no more deeply than the values of the entries. -/
theorem Field.depth_le_of_input? {f : Field} {entries : Entries} {name : String} {v : Value}
    (h : f.input? entries = some (name, v)) : v.depth ≤ Value.entriesDepth entries := by
  obtain ⟨n, -, found⟩ := List.exists_of_findSome?_eq_some h
  obtain ⟨w, lookup, same⟩ := Option.map_eq_some_iff.mp found
  obtain ⟨-, rfl⟩ := Prod.mk.inj same
  rw [List.lookup_eq_findSome?] at lookup
  obtain ⟨⟨k, w⟩, mem, found⟩ := List.exists_of_findSome?_eq_some lookup
  split at found
  · obtain rfl := Option.some.inj found
    exact (Value.depth_le_entriesDepth mem).2
  · cases found

namespace Nesting

variable {depth : Nat} {n n' : Nesting}

/-- Two places that are as good as each other for a value nested so deeply: they are the same, or
there is room for it in both. -/
def AsGoodAs (depth : Nat) (n n' : Nesting) : Prop :=
  n = n' ∨ n.around + depth < limit ∧ n'.around + depth < limit

/-- Where there is room, there is room for one instance less inside. -/
theorem exists_inside? (room : n.around < limit) (r : EntityRef) :
    ∃ i, n.inside? r = some i ∧ i.around ≤ n.around + 1 := by
  rw [inside?, if_pos room]
  split
  · exact ⟨n, rfl, Nat.le_succ _⟩
  · exact ⟨_, rfl, Nat.le_refl _⟩

/-- Inside an instance in places as good as each other, there is no room in either, or they are as
good as each other for what is nested less deeply. -/
theorem AsGoodAs.inside_cases (h : AsGoodAs depth n n') (r : EntityRef) :
    n.inside? r = none ∧ n'.inside? r = none ∨
      ∃ i i', n.inside? r = some i ∧ n'.inside? r = some i' ∧
        ∀ less, less < depth → AsGoodAs less i i' := by
  rcases h with rfl | ⟨room, room'⟩
  · cases inside : n.inside? r with
    | none => exact .inl ⟨rfl, rfl⟩
    | some i => exact .inr ⟨i, i, rfl, rfl, fun _ _ => .inl rfl⟩
  · obtain ⟨i, inside, le⟩ := exists_inside? (n := n) (by omega) r
    obtain ⟨i', inside', le'⟩ := exists_inside? (n := n') (by omega) r
    exact .inr ⟨i, i', inside, inside', fun less lt => .inr ⟨by omega, by omega⟩⟩

end Nesting

namespace Catalog

variable {c : Catalog} {now : Float} {depth fuel fuel' : Nat} {n n' i i' : Nesting}
  {r : EntityRef} {entries entries' : Entries} {v : Value}

theorem acceptEntity_resolve (make : Nesting → EntityRef → Entries → Checked Accepted) :
    c.acceptEntity make n (c.resolve r) v = c.acceptEntity make n r v := by
  rw [acceptEntity, resolve_resolve]
  rfl

/-- What a field holds depends on what becomes of the value given for it. -/
theorem made_congr {asEntity asEntity' : EntityRef → Value → Checked Accepted} {f : Field}
    (input : f.input? entries = f.input? entries')
    (parts : ∀ s (w : Value), w.depth ≤ Value.entriesDepth entries → asEntity s w = asEntity' s w) :
    f.made asEntity now entries = f.made asEntity' now entries' := by
  unfold Field.made
  rw [← input]
  split
  · next name w given =>
    rw [Field.accept, Field.accept,
      TypeExpr.acceptWithin_congr parts f.bounds f.type (Field.depth_le_of_input? given)]
  · rfl

/-- What is made of a map depends on what becomes of its values. -/
theorem make_congr
    (parts : ∀ s (w : Value), w.depth ≤ Value.entriesDepth entries →
      c.acceptEntity (c.make now fuel) i s w = c.acceptEntity (c.make now fuel') i' s w) :
    c.make now (fuel + 1) i r entries = c.make now (fuel' + 1) i' r entries := by
  rw [make, make]
  refine congrArg (Except.map _) (congrArg gather (List.map_congr_left fun f _ => ?_))
  rw [made_congr rfl parts]

/-- What becomes of a value depends on what is made of it as a map. -/
theorem acceptEntity_congr_of_make
    {make make' : Nesting → EntityRef → Entries → Checked Accepted}
    (inside : n.inside? (c.resolve r) = some i) (inside' : n'.inside? (c.resolve r) = some i')
    (made : ∀ entries, v.mapping? = some entries →
      make i (c.resolve r) entries = make' i' (c.resolve r) entries) :
    c.acceptEntity make n r v = c.acceptEntity make' n' r v := by
  unfold acceptEntity
  dsimp only
  rw [inside, inside']
  cases v with
  | map entries => exact made entries rfl
  | node entries => exact made entries rfl
  | _ => rfl

/-- **In two places as good as each other for a value, entity types make the same of it**, if maps
can be followed far enough down: by induction on how deeply it is nested. -/
theorem acceptEntity_congr (enough : depth ≤ fuel) (enough' : depth ≤ fuel')
    (places : Nesting.AsGoodAs depth n n') (r : EntityRef) (v : Value) (hv : v.depth ≤ depth) :
    c.acceptEntity (c.make now fuel) n r v = c.acceptEntity (c.make now fuel') n' r v := by
  induction depth generalizing fuel fuel' n n' r v with
  | zero =>
    rcases places.inside_cases (c.resolve r) with ⟨full, full'⟩ | ⟨i, i', inside, inside', -⟩
    · rw [acceptEntity, acceptEntity, full, full']
    · exact acceptEntity_congr_of_make inside inside' fun entries mapping =>
        absurd (Value.entriesDepth_lt hv mapping) (Nat.not_lt_zero _)
  | succ depth ih =>
    rcases places.inside_cases (c.resolve r) with ⟨full, full'⟩ | ⟨i, i', inside, inside', places⟩
    · rw [acceptEntity, acceptEntity, full, full']
    · obtain ⟨fuel, rfl⟩ := Nat.exists_eq_add_one_of_ne_zero (show fuel ≠ 0 by omega)
      obtain ⟨fuel', rfl⟩ := Nat.exists_eq_add_one_of_ne_zero (show fuel' ≠ 0 by omega)
      refine acceptEntity_congr_of_make inside inside' fun entries mapping => ?_
      -- One instance more is around the values of the map, and they are nested less deeply.
      exact make_congr fun s w hw => ih (by omega) (by omega) (places _ (Nat.lt_succ_self _)) s w
        (Nat.le_trans hw (Nat.le_of_lt_succ (Value.entriesDepth_lt hv mapping)))

/-- How far down maps are followed does not matter to a field, if it is as far as in the map that
the value for it is taken from. -/
theorem made_readingAt (f : Field) (n : Nesting) (entries : Entries) :
    f.made (c.readingAt now (fun _ => Value.entriesDepth entries) n) now entries =
      f.made (c.acceptAt now n) now entries :=
  made_congr rfl fun s w hw => acceptEntity_congr hw (Nat.le_refl _) (.inl rfl) s w (Nat.le_refl _)

/-- What is made of a map depends on what is given for fields. -/
theorem make_congr_of_inputs
    (inputs : ∀ f ∈ c.fieldsOf r, f.input? entries = f.input? entries') :
    c.make now (Value.entriesDepth entries + 1) n r entries =
      c.make now (Value.entriesDepth entries' + 1) n r entries' := by
  have attributes : attributesOf (c.readingAt now (fun _ => Value.entriesDepth entries) n) now
        (c.fieldsOf r) entries =
      attributesOf (c.readingAt now (fun _ => Value.entriesDepth entries') n) now
        (c.fieldsOf r) entries' := by
    refine congrArg gather (List.map_congr_left fun f hf => ?_)
    rw [made_readingAt, made_readingAt, made_congr (inputs f hf) fun _ _ _ => rfl]
  have made : instanceOf r (c.fieldsOf r) entries = instanceOf r (c.fieldsOf r) entries' := by
    unfold instanceOf
    rw [List.countP_congr fun f hf => by rw [inputs f hf]]
  rw [make, make, made]
  exact congrArg (Except.map _) attributes

/-- **An instance depends on what is given for its fields**, whatever else there is in the map that
it is made of. -/
theorem construct_congr (inputs : ∀ f ∈ c.fieldsOf r, f.input? entries = f.input? entries') :
    c.construct now r entries = c.construct now r entries' := by
  have made : c.acceptAt now (c.nesting (c.resolve r)) r (.map entries) =
      c.acceptAt now (c.nesting (c.resolve r)) r (.map entries') := by
    rw [← fieldsOf_resolve] at inputs
    rw [acceptAt, acceptAt, acceptEntity, acceptEntity]
    split
    · rfl
    · exact make_congr_of_inputs inputs
  unfold construct
  rw [made]

end Catalog

end GraphMapper
