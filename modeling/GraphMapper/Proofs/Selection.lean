import GraphMapper.Proofs.Merge

/-!
# Which nodes are selected

Three operations look for nodes by a property map: reading and removing nodes by properties,
and merging. A caller expects every entry of the map to be a condition on the nodes. This file
says when it is.

Names of attributes and properties are both welcome in a property map, so two entries may
stand for one property – `email` and `Email`, say – and then only the later of them becomes a
condition: translating the map makes them one. Besides, the branches of a merge prevail over
its pattern, as `GraphMapper.Request.pattern_bound_iff` has it. These are the only ways for an
entry to get lost (`GraphMapper.Request.AsksFor.entriesKept_iff`).
-/

namespace GraphMapper

open GraphMapper.Action Statement

/-! ### Conditions that are read back -/

namespace Statement

theorem pieces_append (separator : Char) (s t : String) :
    pieces separator (s ++ (String.singleton separator ++ t)) =
      pieces separator s ++ pieces separator t := by
  rw [pieces, String.toList_append, String.toList_append, String.toList_singleton,
    List.singleton_append, List.splitOn_append_cons_self, List.map_append, pieces, pieces]

end Statement

namespace Wording

theorem conjuncts_dropByProperties (label : Identifier) {clause : String}
    (h : '\x7d' ∉ clause.toList) :
    conjuncts (dropByProperties label.text clause) = pieces ',' clause := by
  have read : (dropByProperties label.text clause).toList =
      ("MATCH (n:".toList ++ label.text.toList) ++ '\x7b' :: (clause.toList ++ '\x7d' ::
        ") DETACH DELETE n".toList) := by
    simp [dropByProperties]
  rw [conjuncts, between_eq read (brace_notMem_label label _ (by decide)) h]

/-- Reading asks for live nodes on top of what is given. -/
theorem conjuncts_getByProperties (label : Identifier) {clause : String}
    (h : '\x7d' ∉ clause.toList) (path result : String) :
    conjuncts (getByProperties label.text clause path result) =
      pieces ',' clause ++ ["IsDeleted:false"] := by
  have inside : '\x7d' ∉ (clause ++ (String.singleton ',' ++ "IsDeleted:false")).toList := by
    rw [String.toList_append, List.mem_append]
    exact fun hm => hm.elim h (by decide)
  have read : (getByProperties label.text clause path result).toList =
      ("MATCH (n:".toList ++ label.text.toList) ++ '\x7b' ::
        ((clause ++ (String.singleton ',' ++ "IsDeleted:false")).toList ++ '\x7d' ::
          (")".toList ++ (path.toList ++ (" RETURN ".toList ++ result.toList)))) := by
    simp [getByProperties]
  have live : pieces ',' "IsDeleted:false" = ["IsDeleted:false"] := by decide
  rw [conjuncts, between_eq read (brace_notMem_label label _ (by decide)) inside, pieces_append,
    live]

end Wording

/-! ### Selections -/

/-- Whether an operation selects nodes by a property map. -/
def Operation.selects : Operation → Bool
  | getByProperties _ _ | dropByProperties _ _ | merge _ _ _ => true
  | _ => false

/-- The described type and the entries by which an operation selects nodes; last, the parameters
that prevail over those of the entries. -/
inductive Operation.Selects (c : Catalog) (now : Float) (identifier : String) :
    Operation → Descriptor → Entries → Parameters → Prop where
  /-- Reading nodes. -/
  | getByProperties {type properties : Value} {d : Descriptor} {entries : Entries}
    (described : c.describe type = .ok d) (given : properties.mapping? = some entries) :
    Selects c now identifier (.getByProperties type properties) d entries []
  /-- Removing nodes. -/
  | dropByProperties {type properties : Value} {d : Descriptor} {entries : Entries}
    (described : c.describe type = .ok d) (given : properties.mapping? = some entries) :
    Selects c now identifier (.dropByProperties type properties) d entries []
  /-- Merging. -/
  | merge {onCreate onUpdate properties : Value} {d u : Descriptor} {entries : Entries}
    (described : c.describeEntity onCreate = .ok d)
    (updated : c.describeEntity onUpdate = .ok u) (given : properties.mapping? = some entries) :
    Selects c now identifier (.merge onCreate onUpdate properties) d entries
      (Request.branchParameters d u now identifier onCreate onUpdate)

/-- A request that asks for the properties of a translated map, each under its own name,
unless a parameter of the same name prevails. -/
structure Request.AsksFor (r : Request) (values prevailing : Parameters) : Prop where
  /-- The conditions are the properties of the map. -/
  conditions : ∀ key name, key ++ ":$" ++ name ∈ conjuncts r.statement ↔
    key ∈ Assoc.keys values ∧ key = name
  /-- The parameters are those that prevail, and those of the map. -/
  parameters : ∃ bound, r.parameters = .ofParameters bound ∧ ∀ name,
    bound.lookup name = (prevailing.lookup name).or (values.lookup name)

namespace Clause

/-- The conditions of a clause without a prefix. -/
theorem condition_mem_pieces_iff {values : Parameters}
    (hv : ∀ k ∈ Assoc.keys values, isIdentifier k.toList = true) (key name : String) :
    key ++ ":$" ++ name ∈ pieces ',' (ofValues .condition "" values).text ↔
      key ∈ Assoc.keys values ∧ key = name := by
  refine (text_mem_pieces_iff hv (by decide) key name).trans ?_
  rw [String.empty_append]

theorem brace_notMem_condition {values : Parameters}
    (hv : ∀ k ∈ Assoc.keys values, isIdentifier k.toList = true) :
    '\x7d' ∉ (ofValues .condition "" values).text.toList :=
  notMem_text_ofValues hv (by decide)

end Clause

/-- **What a selection asks for**: the properties of its translated map. -/
theorem Operation.exists_selects {c : Catalog} {now : Float} {identifier : String}
    {operation : Operation} (ho : operation.selects = true) {r : Request}
    (hr : operation.request c now identifier = .ok r) :
    ∃ d entries prevailing values, operation.Selects c now identifier d entries prevailing ∧
      d.translate entries = Value.ofNames values ∧ r.AsksFor values prevailing := by
  cases operation with
  | getByProperties type properties =>
    obtain ⟨entries, t, d, values, hp, -, rfl, hd, hv, hk, rfl⟩ :=
      Request.getByProperties_eq_ok hr
    obtain ⟨raw, -, rfl⟩ := Descriptor.translate_eq_ofNames hv
    refine ⟨d, entries, [], _, .getByProperties hd hp, hv,
      ⟨fun key name => ?_, _, rfl, fun name => ?_⟩⟩
    · -- The condition that the node is live binds nothing.
      have alive : key ++ ":$" ++ name ≠ "IsDeleted:false" := by
        intro h
        have chars : '$' ∈ (key ++ ":$" ++ name).toList := by simp
        rw [h] at chars
        exact absurd chars (by decide)
      rw [Wording.conjuncts_getByProperties _ (Clause.brace_notMem_condition hk), List.mem_append,
        Clause.condition_mem_pieces_iff hk, List.mem_singleton, or_iff_left alive]
    · rw [Clause.parameters_ofValues_plain,
        Assoc.ofEntries_of_nodup (Assoc.nodup_keys_ofEntries raw)]
      rfl
  | dropByProperties type properties =>
    obtain ⟨entries, d, values, hp, -, hd, hv, hk, rfl⟩ := Request.dropByProperties_eq_ok hr
    obtain ⟨raw, -, rfl⟩ := Descriptor.translate_eq_ofNames hv
    refine ⟨d, entries, [], _, .dropByProperties hd hp, hv,
      ⟨fun key name => ?_, _, rfl, fun name => ?_⟩⟩
    · rw [Wording.conjuncts_dropByProperties _ (Clause.brace_notMem_condition hk)]
      exact Clause.condition_mem_pieces_iff hk key name
    · rw [Clause.parameters_ofValues_plain,
        Assoc.ofEntries_of_nodup (Assoc.nodup_keys_ofEntries raw)]
      rfl
  | merge onCreate onUpdate properties =>
    obtain ⟨_, _, entries, d, u, values, ht, hut, hp, -, hd, hu, hv, hk, rfl⟩ :=
      Request.merge_eq_ok hr
    obtain ⟨raw, -, rfl⟩ := Descriptor.translate_eq_ofNames hv
    refine ⟨d, entries, _, _,
      .merge (Catalog.describeEntity_eq ht hd) (Catalog.describeEntity_eq hut hu) hp, hv,
      ⟨fun key name => ?_, _, rfl, fun name => ?_⟩⟩
    · refine Iff.trans ?_ (Clause.condition_mem_pieces_iff hk key name)
      rw [← Request.conjuncts_mergeStatement now identifier _ _ hk]
      rfl
    · exact Request.lookup_mergeParameters now identifier _ _ (Assoc.nodup_keys_ofEntries raw) name
  | _ => cases ho

/-! ### Entries that are kept -/

/-- Every entry of a property map is a condition of a statement, bound to its value. -/
def EntriesKept (d : Descriptor) (entries : Entries) (statement : String) (bound : Parameters) :
    Prop :=
  ∀ e ∈ entries, ∃ key name, d.graphKey e.1 = .text key ∧
    key ++ ":$" ++ name ∈ conjuncts statement ∧ bound.lookup name = some e.2

/-- Entries that stand for one property have one value, and no parameter that prevails has the
name of a property and another value. -/
def EntriesAgree (d : Descriptor) (entries : Entries) (prevailing : Parameters) : Prop :=
  (∀ e ∈ entries, ∀ e' ∈ entries, d.graphKey e.1 = d.graphKey e'.1 → e.2 = e'.2) ∧
    ∀ e ∈ entries, ∀ key v, d.graphKey e.1 = .text key → prevailing.lookup key = some v → v = e.2

/-- **An entry is lost only where entries disagree.** -/
theorem Request.AsksFor.entriesKept_iff {r : Request} {d : Descriptor} {entries : Entries}
    {values prevailing : Parameters} (ha : r.AsksFor values prevailing)
    (hv : d.translate entries = Value.ofNames values) :
    ∃ bound, r.parameters = .ofParameters bound ∧
      (EntriesKept d entries r.statement bound ↔ EntriesAgree d entries prevailing) := by
  obtain ⟨given, hg, rfl⟩ := Descriptor.translate_eq_ofNames hv
  obtain ⟨bound, hp, hl⟩ := ha.parameters
  -- Entries are compared through the property that each stands for.
  have toGiven : ∀ e ∈ entries, ∃ key, d.graphKey e.1 = .text key ∧ (key, e.2) ∈ given := by
    intro e he
    have hm := List.mem_map_of_mem (f := fun e => (d.graphKey e.1, e.2)) he
    rw [hg] at hm
    obtain ⟨⟨key, v⟩, hgiven, hkv⟩ := List.mem_map.mp hm
    obtain ⟨hk, rfl⟩ := Prod.mk.inj hkv
    exact ⟨key, hk.symm, hgiven⟩
  have ofGiven : ∀ key v, (key, v) ∈ given →
      ∃ e ∈ entries, d.graphKey e.1 = .text key ∧ e.2 = v := by
    intro key v hgiven
    have hm : (Value.text key, v) ∈ Value.ofNames given :=
      List.mem_map_of_mem (f := fun e => (Value.text e.1, e.2)) hgiven
    rw [← hg] at hm
    obtain ⟨e, he, hkv⟩ := List.mem_map.mp hm
    obtain ⟨hk, hev⟩ := Prod.mk.inj hkv
    exact ⟨e, he, hk, hev⟩
  refine ⟨bound, hp, ?_, ?_⟩
  · intro kept
    -- What is bound under the property of an entry is the value of the entry.
    have held : ∀ e ∈ entries, ∀ key, d.graphKey e.1 = .text key →
        bound.lookup key = some e.2 := by
      intro e he key hk
      obtain ⟨key', name, hk', hc, hb⟩ := kept e he
      obtain rfl : key = key' := Value.text.inj (hk.symm.trans hk')
      obtain ⟨-, rfl⟩ := (ha.conditions key name).mp hc
      exact hb
    constructor
    · intro e he e' he' hee
      obtain ⟨key, hk, -⟩ := toGiven e he
      exact Option.some.inj ((held e he key hk).symm.trans (held e' he' key (hee ▸ hk)))
    · intro e he key v hk hpv
      have hb := held e he key hk
      rw [hl, hpv, Option.some_or] at hb
      exact Option.some.inj hb
  · rintro ⟨agree, clear⟩ e he
    obtain ⟨key, hk, hgiven⟩ := toGiven e he
    have hkey : key ∈ Assoc.keys (Assoc.ofEntries given) :=
      (Assoc.mem_keys_ofEntries given key).mpr (List.mem_map_of_mem hgiven)
    refine ⟨key, key, hk, (ha.conditions key key).mpr ⟨hkey, rfl⟩, ?_⟩
    rw [hl]
    -- Either a parameter prevails, and it has the value; or the last entry of the property counts.
    cases hpv : prevailing.lookup key with
    | some v => rw [clear e he key v hk hpv]; rfl
    | none =>
      obtain ⟨v, hlv⟩ := Assoc.exists_lookup_of_mem_keys hkey
      rw [Option.none_or, hlv]
      rw [Assoc.lookup_ofEntries] at hlv
      obtain ⟨e', he', hk', rfl⟩ := ofGiven key v
        (List.mem_reverse.mp (Assoc.mem_of_lookup hlv))
      exact congrArg some (agree e' he' e he (hk'.trans hk.symm))

namespace Client

variable {σ : Type} [Database σ] {c : Catalog}

/-- **Which conditions are kept.** Of a property map by which nodes are read, removed or merged,
every entry is a condition of the statement – its property, bound to its value – exactly if
entries that stand for one property have one value and, where the nodes are merged, no property
has the name of a parameter of a branch with another value. -/
theorem conditions_kept_iff {operation : Operation} (ho : operation.selects = true) {w : World σ}
    {statement : String} {parameters : Value}
    (h : ((perform c operation).statements w).head? = some (statement, parameters)) :
    ∃ d entries prevailing bound,
      operation.Selects c w.now w.nextIdentifier d entries prevailing ∧
      parameters = .ofParameters bound ∧
      (EntriesKept d entries statement bound ↔ EntriesAgree d entries prevailing) := by
  have sends : (perform c operation).statements w ≠ [] := by
    intro hnil
    rw [hnil] at h
    cases h
  obtain ⟨r, v, hr, -, hv⟩ := exists_request sends
  obtain ⟨d, entries, prevailing, values, hs, ht, ha⟩ := Operation.exists_selects ho hr
  obtain ⟨bound, hp, hiff⟩ := ha.entriesKept_iff ht
  refine ⟨d, entries, prevailing, bound, hs, ?_⟩
  rw [hv] at h sends
  -- The statement of the request is the first that is sent.
  rcases statements_send hp v with hnil | ⟨lookups, hl⟩
  · exact absurd hnil sends
  · rw [hl] at h
    obtain ⟨rfl, rfl⟩ := Prod.mk.inj (Option.some.inj h)
    exact ⟨rfl, hiff⟩

/-- Removing users by their address keeps the only condition there is. -/
theorem conditions_kept_iff_users :
    ∃ d statement bound, Example.users.describe Example.userType = .ok d ∧
      ((perform Example.users (.dropByProperties Example.userType
          (.map [(.text "email", .text "a@x")]))).statements (Example.connected [])).head? =
        some (statement, .ofParameters bound) ∧
      EntriesKept d [(.text "email", .text "a@x")] statement bound := by
  have sends : ((perform Example.users (.dropByProperties Example.userType
      (.map [(.text "email", .text "a@x")]))).statements
        (Example.connected [])).head?.isSome = true := by
    decide +kernel
  obtain ⟨⟨statement, parameters⟩, hs⟩ := Option.isSome_iff_exists.mp sends
  obtain ⟨d, entries, prevailing, bound, selects, rfl, hiff⟩ := conditions_kept_iff rfl hs
  cases selects with
  | dropByProperties hd given =>
    obtain rfl := Option.some.inj given
    refine ⟨d, statement, bound, hd, hs, hiff.mpr ⟨?_, ?_⟩⟩
    · intro e he e' he' _
      rw [List.mem_singleton.mp he, List.mem_singleton.mp he']
    · intro e _ key v _ hv
      cases hv

/-- Removing users by two names of one property, with a value for each, loses an entry. -/
theorem condition_lost_email_Email :
    ¬ ∀ d statement parameters, Example.users.describe Example.userType = .ok d →
      ((perform Example.users (.dropByProperties Example.userType
          (.map [(.text "email", .text "a@x"), (.text "Email", .text "b@x")]))).statements
            (Example.connected [])).head? = some (statement, parameters) →
      ∃ bound, parameters = .ofParameters bound ∧
        EntriesKept d [(.text "email", .text "a@x"), (.text "Email", .text "b@x")] statement
          bound := by
  intro claim
  have sends : ((perform Example.users (.dropByProperties Example.userType
      (.map [(.text "email", .text "a@x"), (.text "Email", .text "b@x")]))).statements
        (Example.connected [])).isEmpty = false := by
    decide +kernel
  obtain ⟨d, described, same⟩ : ∃ d, Example.users.describe Example.userType = .ok d ∧
      d.graphKey (.text "email") = d.graphKey (.text "Email") := ⟨_, rfl, rfl⟩
  obtain ⟨r, v, hr, -, hv⟩ := exists_request (List.isEmpty_eq_false_iff.mp sends)
  obtain ⟨d', entries, prevailing, values, selects, ht, ha⟩ := Operation.exists_selects rfl hr
  cases selects with
  | dropByProperties hd given =>
    obtain rfl := Option.some.inj given
    obtain rfl : d = d' := Except.ok.inj (described.symm.trans hd)
    obtain ⟨bound, hp, hiff⟩ := ha.entriesKept_iff ht
    obtain ⟨lookups, hl⟩ := (statements_send hp v).resolve_left
      (hv ▸ List.isEmpty_eq_false_iff.mp sends)
    obtain ⟨bound', hb, kept⟩ :=
      claim d r.statement r.parameters described (by rw [hv, hl, hp]; rfl)
    obtain rfl : bound' = bound := Value.ofNames_injective (Value.map.inj (hb.symm.trans hp))
    -- Two entries that stand for one property would have to have one value.
    have agree : Value.text "a@x" = .text "b@x" :=
      (hiff.mp kept).1 _ List.mem_cons_self _ (List.mem_cons_of_mem _ List.mem_cons_self) same
    exact absurd (Value.text.inj agree) (by decide)

end Client

end GraphMapper
