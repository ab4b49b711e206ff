import GraphMapper.Proofs.Catalog.Reach
import GraphMapper.Proofs.Descriptor

/-!
# What a declaration changes

A declaration adds a type. If the name of the type is new, the catalog **gains** it
(`GraphMapper.Catalog.Gains`): the references that were known before lead to the same types as they
did, and those that waited for this name are known now. So a type that had a descriptor has the
same one afterwards (`GraphMapper.Catalog.Gains.describeRef`). The argument turns on what such a
type reaches: nothing behind it is unresolved, so nothing behind it can change.

A declaration is read while its names refer to what has been declared so far. What it refers to is
admitted then, and the catalog it leads to is sound if the one before was
(`GraphMapper.Catalog.Sound.declare`).
-/

namespace GraphMapper

open Outcome

/-! ### References of type expressions -/

namespace TypeExpr

mutual

theorem references_bind (f : EntityRef → EntityRef) :
    ∀ t : TypeExpr, (t.bind f).references = t.references.map f
  | .entity _ => rfl
  | .collection _ item => references_bind f item
  | .mapping _ key value => by
    rw [bind, references, references, references_bind f key, references_bind f value,
      List.map_append]
  | .union _ members => memberReferences_bindMembers f members
  | .plain _ | .enumeration _ _ | .bare _ => rfl

theorem memberReferences_bindMembers (f : EntityRef → EntityRef) :
    ∀ ts : List TypeExpr, memberReferences (bindMembers f ts) = (memberReferences ts).map f
  | [] => rfl
  | t :: rest => by
    rw [bindMembers, memberReferences, memberReferences, references_bind f t,
      memberReferences_bindMembers f rest, List.map_append]

end

mutual

/-- An expression leads to what it refers to. -/
theorem mem_references_of_target {r : EntityRef} :
    ∀ t : TypeExpr, t.target.type? = some (.entity r) → r ∈ t.references
  | .entity s, h => by
    obtain rfl : s = r := by simpa [target] using h
    exact List.mem_singleton_self s
  | .collection _ item, h => mem_references_of_target item h
  | .union _ members, h => by
    rw [target] at h
    split at h
    · exact mem_memberReferences_of_firstOther members h
    · cases h
  | .bare .list, h | .bare .map, h | .mapping _ _ _, h | .plain _, h | .enumeration _ _, h => by
    cases h

theorem mem_memberReferences_of_firstOther {r : EntityRef} :
    ∀ ts : List TypeExpr, (firstOther ts).type? = some (.entity r) → r ∈ memberReferences ts
  | [], h => by cases h
  | t :: rest, h => by
    rw [firstOther] at h
    split at h
    · exact List.mem_append_right _ (mem_memberReferences_of_firstOther rest h)
    · exact List.mem_append_left _ (mem_references_of_target t h)

end

end TypeExpr

namespace Catalog

variable {c c' : Catalog} {q r s : EntityRef} {t u : EntityType} {d : Descriptor}

/-- A reference is described as what it comes to is. -/
theorem describeRef_resolve_eq_ok : c.describeRef (c.resolve r) = .ok d ↔
    c.describeRef r = .ok d := by
  rw [describeRef_eq_ok, describeRef_eq_ok, find?_resolve, unresolved?_resolve, isSuited_resolve]

/-- The descriptor of a type is worked out from the type. -/
theorem Ordered.describeType_of_describeRef (h : c.Ordered) (ht : t ∈ c.types)
    (described : c.describeRef t.ref = .ok d) : c.describeType t = .ok d := by
  obtain ⟨u, found, described⟩ := Catalog.describeType_of_describeRef described
  obtain rfl := Option.some.inj ((h.find?_ref ht).symm.trans found)
  exact described

/-! ### Catalogs that gain a type -/

/-- What a catalog admits, one with more types admits. -/
theorem Admits.mono (more : ∀ t ∈ c.types, t ∈ c'.types) (hq : c.Admits q) : c'.Admits q := by
  cases hq with
  | base => exact .base
  | pending name => exact .pending name
  | ref hu => exact .ref (more _ hu)

/-- One catalog is another with one more type, of a new name. -/
structure Gains (c c' : Catalog) (t : EntityType) : Prop where
  /-- The type comes last. -/
  types : c'.types = c.types ++ [t]
  /-- No other has its name. -/
  fresh : t.name ∉ c.types.map EntityType.name

namespace Gains

theorem mem_types (h : c.Gains c' t) (hu : u ∈ c.types) : u ∈ c'.types :=
  h.types ▸ List.mem_append_left _ hu

theorem refer_of_mem (h : c.Gains c' t) {name : String} (hu : c.latest? name = some u) :
    c'.refer name = c.refer name := by
  have other : t.name ≠ name := fun same => by
    obtain ⟨mem, named⟩ := mem_types_of_latest? hu
    exact h.fresh (same ▸ named ▸ List.mem_map_of_mem mem)
  have latest : c'.latest? name = c.latest? name := by
    rw [latest?, h.types, List.reverse_append, List.reverse_singleton, List.singleton_append,
      List.find?_cons_of_neg (by simpa using other)]
    rfl
  rw [refer, latest]
  rfl

/-- References known before lead where they led. -/
theorem resolve_of_knows (h : c.Gains c' t) (known : c.knows q = true) :
    c'.resolve q = c.resolve q := by
  rcases q with _ | ⟨number, name⟩ | name
  · rfl
  · rfl
  · change c'.refer name = c.refer name
    cases found : c.latest? name with
    | some u => exact h.refer_of_mem found
    | none =>
      unfold knows at known
      change (!(c.refer name).isPending) = true at known
      unfold refer at known ⊢
      split
      · rfl
      · next other =>
        rw [if_neg other, found] at known
        cases known

theorem knows_of_knows (h : c.Gains c' t) (known : c.knows q = true) : c'.knows q = true := by
  rw [knows, h.resolve_of_knows known]
  exact known

theorem find?_of_find? (h : c.Gains c' t) (found : c.find? q = some u) : c'.find? q = some u := by
  have same := h.resolve_of_knows (knows_of_find? found)
  unfold find? at found ⊢
  rw [same]
  split at found
  · rw [h.types, List.find?_append, found]
    rfl
  · cases found

/-- What was known before leads to the same type, or to none. -/
theorem find?_of_knows (h : c.Gains c' t) (ordered : c.Ordered) (hq : c.Admits q)
    (known : c.knows q = true) : c'.find? q = c.find? q := by
  cases found : c.find? q with
  | some u => exact h.find?_of_find? found
  | none =>
    have base : c.resolve q = .base := by
      rw [knows] at known
      rw [← find?_resolve] at found
      generalize c.resolve q = s, hq.resolve = hs at known found
      rcases hs with _ | name | @⟨u, hu⟩
      · rfl
      · cases known
      · rw [ordered.find?_ref hu] at found
        cases found
    rw [find?, h.resolve_of_knows known, base]

/-- Where nothing was unresolved, a type reaches nothing that it did not reach before. -/
theorem reaches (h : c.Gains c' t) (ordered : c.Ordered) (hr : c.Admits r)
    (known : c.knows r = true) (resolved : ∀ s, c.Reaches r s → c.Resolved s)
    (reached : c'.Reaches r s) : c.Reaches r s := by
  induction reached with
  | itself =>
    rw [h.resolve_of_knows known]
    exact .itself
  | @along s q u _ found refers before =>
    rw [h.find?_of_knows ordered (before.admits ordered hr) (before.knows known resolved)] at found
    rw [h.resolve_of_knows (resolved s before u found q refers)]
    exact .along before found refers

/-! ### Descriptors -/

/-- A type that refers to known types is described as before. -/
theorem describeType (h : c.Gains c' t) (known : ∀ q ∈ u.references, c.knows q = true) :
    c'.describeType u = c.describeType u := by
  have target (f : Field) (hf : f ∈ u.fields) : c'.target f.type = c.target f.type := by
    unfold target
    split
    · next r many leads =>
      have refers : r ∈ u.references :=
        List.mem_flatMap.mpr ⟨f, hf, f.type.mem_references_of_target (by rw [leads])⟩
      rw [h.knows_of_knows (known r refers), known r refers,
        h.resolve_of_knows (known r refers)]
    · rfl
  have fields : u.fields.mapM c'.describeField = u.fields.mapM c.describeField := by
    refine mapM_congr fun f hf => ?_
    unfold describeField roleOf
    rw [target f hf]
  unfold Catalog.describeType
  rw [fields]

/-- **What had a descriptor has the same one afterwards.** -/
theorem describeRef (h : c.Gains c' t) (ordered : c.Ordered) (ordered' : c'.Ordered)
    (hr : c.Admits r)
    (before : c.describeRef r = .ok d) : c'.describeRef r = .ok d := by
  obtain ⟨u, found, complete, suited, described⟩ := describeRef_eq_ok.mp before
  have known := knows_of_find? found
  have resolved := (ordered.unresolved?_eq_none_iff hr).mp complete
  have hr' : c'.Admits r := hr.mono fun _ => h.mem_types
  have back {s : EntityRef} (reached : c'.Reaches r s) : c.Reaches r s :=
    h.reaches ordered hr known resolved reached
  have same {s : EntityRef} (reached : c'.Reaches r s) : c'.find? s = c.find? s :=
    h.find?_of_knows ordered ((back reached).admits ordered hr)
      ((back reached).knows known resolved)
  have complete' : c'.unresolved? r = none := by
    refine (ordered'.unresolved?_eq_none_iff hr').mpr fun s reached v found q refers => ?_
    rw [same reached] at found
    exact h.knows_of_knows (resolved s (back reached) v found q refers)
  have suited' : c'.isSuited r = true := by
    refine (ordered'.isSuited_iff hr').mpr fun s reached v found => ?_
    rw [same reached] at found
    exact (ordered.isSuited_iff hr).mp suited s (back reached) v found
  have described' : c'.describeType u = .ok d := by
    rw [h.describeType (resolved _ .itself u (by rw [find?_resolve, found]))]
    exact described
  exact describeRef_eq_ok.mpr ⟨u, h.find?_of_find? found, complete', suited', described'⟩

end Gains

/-! ### Declarations -/

variable {made : Declaration}

/-- A declaration that refers to nothing but what its names stand for now. -/
def Reads (c : Catalog) (made : Declaration) : Prop :=
  ∀ f ∈ made.fields, ∀ q ∈ f.type.references, ∃ name, q = c.refer name

/-- A declaration under a new name gains a type of this name. -/
theorem gains_of_declare (fresh : made.name ∉ c.types.map EntityType.name)
    (declared : c.declare made = .ok c') :
    ∃ fields, c.parentFields made = .ok fields ∧ c.Gains c' (c.declared fields made) := by
  obtain ⟨fields, found, types⟩ := types_of_declare declared
  exact ⟨fields, found, types, (name_declared c fields made).symm ▸ fresh⟩

/-- The fields of a declared type are those it starts from and its own, in which its name leads to
itself. -/
theorem mem_fields_declared {fields : List Field} {f : Field}
    (hf : f ∈ (c.declared fields made).fields) :
    f ∈ fields ∨ ∃ own ∈ made.fields, f.type = own.type.bind fun r =>
      if r = .pending made.name then (c.declared fields made).ref else r := by
  rw [EntityType.ref, number_declared, name_declared]
  unfold Catalog.declared at hf
  dsimp only at hf
  split at hf
  all_goals
    rcases EntityType.mem_or_mem_of_mem_extend hf with inherited | added
    · exact .inl inherited
    · obtain ⟨own, hown, rfl⟩ := List.mem_map.mp added
      exact .inr ⟨own, hown, rfl⟩

/-- What the type starts from refers to what the catalog admits. -/
theorem Ordered.admits_of_mem_parentFields (h : c.Ordered) {fields : List Field}
    (found : c.parentFields made = .ok fields) {f : Field} (hf : f ∈ fields)
    (hq : q ∈ f.type.references) : c.Admits q := by
  unfold parentFields at found
  split at found
  · obtain rfl := Except.ok.inj found
    have none : ∀ f ∈ baseFields, f.type.references = [] := by decide
    rw [none f hf] at hq
    cases hq
  · split at found
    · next t parent =>
      obtain rfl := Except.ok.inj found
      exact h.admitted t (mem_types_of_latest? parent).1 q (List.mem_flatMap.mpr ⟨f, hf, hq⟩)
    · cases found

/-- **A declaration leads from an ordered catalog to an ordered one**, whatever its name. -/
theorem Ordered.declare (h : c.Ordered) (reads : c.Reads made)
    (declared : c.declare made = .ok c') : c'.Ordered := by
  obtain ⟨fields, found, types⟩ := types_of_declare declared
  have mono {q : EntityRef} (hq : c.Admits q) : c'.Admits q :=
    hq.mono fun _ ht => types ▸ List.mem_append_left _ ht
  refine ⟨?_, ?_⟩
  · rw [types, List.map_append, List.map_singleton, number_declared, h.numbered, List.length_append,
      List.length_singleton, List.range_succ]
  · intro t ht q hq
    rw [types] at ht
    rcases List.mem_append.mp ht with ht | ht
    · exact mono (h.admitted t ht q hq)
    · obtain rfl := List.mem_singleton.mp ht
      obtain ⟨f, hf, hq⟩ := List.mem_flatMap.mp hq
      rcases mem_fields_declared hf with inherited | ⟨own, hown, type⟩
      · exact mono (h.admits_of_mem_parentFields found inherited hq)
      · rw [type, TypeExpr.references_bind] at hq
        obtain ⟨p, hp, rfl⟩ := List.mem_map.mp hq
        split
        · exact .ref (types ▸ List.mem_append_right _ (List.mem_singleton_self _))
        · obtain ⟨name, rfl⟩ := reads own hown p hp
          exact mono (c.admits_refer name)

/-- **A declaration under a new name leads from a sound catalog to a sound one.** -/
theorem Sound.declare (h : c.Sound) (reads : c.Reads made)
    (fresh : made.name ∉ c.types.map EntityType.name) (declared : c.declare made = .ok c') :
    c'.Sound := by
  obtain ⟨fields, -, gains⟩ := gains_of_declare fresh declared
  obtain ⟨numbered, admitted⟩ := h.ordered.declare reads declared
  refine ⟨numbered, ?_, admitted⟩
  rw [gains.types, List.map_append, List.map_singleton]
  exact h.distinct.append (List.nodup_singleton _) (List.disjoint_singleton.mpr gains.fresh)

end Catalog

end GraphMapper
