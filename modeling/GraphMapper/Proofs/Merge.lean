import GraphMapper.Proofs.Sending

/-!
# What a merge binds

A merge puts three maps into one statement: the properties by which a node is looked for, what
it is created with, and what it is updated with. Their parameters share one map and are kept
apart by prefixes – but only those of the two branches have one. The properties of the pattern
are bound under their own names, and a caller is free to look for a property that is called
`create_Uuid`.

This file says what comes of it. The assignments of both branches are always bound to what
they say (`GraphMapper.Request.created_bound`, `GraphMapper.Request.updated_bound`): no
parameter of one branch is one of the other, and a branch prevails over the pattern. So the
pattern is bound as it says *exactly if* no property of it has the name of a parameter of a
branch that holds something else (`GraphMapper.Request.pattern_bound_iff`).
-/

namespace GraphMapper

open GraphMapper.Action Statement

/-! ### Bindings in a text -/

/-- The conditions of a statement are the properties that a map holds, and each is bound to what
it holds under it. -/
structure ConditionsBound (statement : String) (parameters : Parameters)
    (held : String → Option Value) : Prop where
  /-- Every condition is bound to what the map holds under its property. -/
  bound : ∀ key name, key ++ ":$" ++ name ∈ conjuncts statement →
    ∃ v, held key = some v ∧ parameters.lookup name = some v
  /-- Every property that the map holds is in a condition. -/
  whole : ∀ key v, held key = some v → ∃ name, key ++ ":$" ++ name ∈ conjuncts statement

/-- The assignments of a branch of a statement are to the properties that a map holds, and each
is bound to what it holds under it. -/
structure AssignmentsBound (branch statement : String) (parameters : Parameters)
    (held : String → Option Value) : Prop where
  /-- Every assignment is bound to what the map holds under its property. -/
  bound : ∀ key name, nodeVariable ++ "." ++ key ++ "=$" ++ name ∈ assignments branch statement →
    ∃ v, held key = some v ∧ parameters.lookup name = some v
  /-- Every property that the map holds is assigned to. -/
  whole : ∀ key v, held key = some v →
    ∃ name, nodeVariable ++ "." ++ key ++ "=$" ++ name ∈ assignments branch statement

namespace Clause

variable {form : ClauseForm} {paramPrefix : String}

theorem subjectOf_injective {a b : String} (h : subjectOf a form = subjectOf b form) : a = b := by
  cases form with
  | condition => exact (String.append_left_inj _).mp h
  | assignment node => exact (String.append_right_inj _).mp ((String.append_left_inj _).mp h)

/-- **A binding is read one way only**: from its text, its property and its parameter are
found again. -/
theorem textOf_eq_text_iff {key : String} (hk : isIdentifier key.toList = true)
    (hf : '$' ∉ (subjectOf "" form).toList) (hp : '$' ∉ paramPrefix.toList) {b : Binding} :
    textOf form paramPrefix key = b.text form ↔ key = b.key ∧ paramPrefix ++ key = b.parameter := by
  have unmarked : '$' ∉ key.toList := notMem_of_isIdentifier hk (by decide) (by decide)
  have read : (b.text form).toList =
      (subjectOf b.key form).toList ++ '$' :: b.parameter.toList := by
    cases form <;> simp [Binding.text, subjectOf]
  constructor
  · intro h
    -- There is one dollar sign on the left, so both are cut at theirs.
    have chars := congrArg String.toList h
    rw [toList_textOf, read] at chars
    obtain ⟨hs, hn⟩ := eq_of_marked chars.symm
      (fun hm => (mem_subjectOf hm).elim unmarked hf)
      (by simpa [String.toList_append] using ⟨hp, unmarked⟩)
    exact ⟨subjectOf_injective (String.toList_inj.mp hs.symm), String.toList_inj.mp hn.symm⟩
  · rintro ⟨rfl, hb⟩
    refine String.toList_inj.mp ?_
    rw [toList_textOf, read, hb]

/-- Whether the bindings of a clause can be told apart: there is no dollar sign and no comma in
what it adds to its properties. -/
def isReadable (form : ClauseForm) (paramPrefix : String) : Bool :=
  ((subjectOf "" form).toList ++ paramPrefix.toList).all fun c => c != '$' && c != ','

/-- The bindings of a clause, found in its text. -/
theorem text_mem_pieces_iff {values : Parameters}
    (hv : ∀ k ∈ Assoc.keys values, isIdentifier k.toList = true)
    (readable : isReadable form paramPrefix = true) (key name : String) :
    (Binding.mk key name .null).text form ∈ pieces ',' (ofValues form paramPrefix values).text ↔
      key ∈ Assoc.keys values ∧ paramPrefix ++ key = name := by
  have apart (c : Char) (hc : c ∈ (subjectOf "" form).toList ∨ c ∈ paramPrefix.toList) :
      c ≠ '$' ∧ c ≠ ',' := by
    simpa using List.all_eq_true.mp readable c (List.mem_append.mpr hc)
  have hf : '$' ∉ (subjectOf "" form).toList := fun h => (apart _ (.inl h)).1 rfl
  have hp : '$' ∉ paramPrefix.toList := fun h => (apart _ (.inr h)).1 rfl
  have marked : (Binding.mk key name .null).text form ≠ "" := by
    have read : '$' ∈ ((Binding.mk key name .null).text form).toList := by
      cases form <;> simp [Binding.text]
    rintro h
    rw [h] at read
    cases read
  by_cases hne : values = []
  · -- The empty text is one piece, but it is no binding.
    subst hne
    have empty : pieces ',' (ofValues form paramPrefix []).text = [""] := rfl
    simp [empty, marked, Assoc.keys]
  · rw [pieces_text_ofValues hv hne (fun h => (apart _ (.inl h)).2 rfl)
      (fun h => (apart _ (.inr h)).2 rfl), List.mem_map]
    constructor
    · rintro ⟨k, hk, h⟩
      obtain ⟨rfl, hb⟩ := (textOf_eq_text_iff (hv k hk) hf hp).mp h
      exact ⟨hk, hb⟩
    · rintro ⟨hk, hb⟩
      exact ⟨key, hk, (textOf_eq_text_iff (hv _ hk) hf hp).mpr ⟨rfl, hb⟩⟩

end Clause

/-! ### Reading a merge -/

namespace Wording

theorem brace_notMem_label (label : Identifier) (s : String) (hs : '\x7b' ∉ s.toList) :
    '\x7b' ∉ s.toList ++ label.text.toList := by
  rw [List.mem_append]
  exact fun hm => hm.elim hs (label.notMem (by decide) (by decide))

theorem conjuncts_merge (label : Identifier) {inside : String} (h : '\x7d' ∉ inside.toList)
    (onCreate onMatch : String) :
    conjuncts (merge label.text inside onCreate onMatch) = pieces ',' inside := by
  have read : (merge label.text inside onCreate onMatch).toList =
      ("MERGE (n:".toList ++ label.text.toList) ++ '\x7b' :: (inside.toList ++ '\x7d' ::
        (") ".toList ++ (onCreate.toList ++ (" ".toList ++ (onMatch.toList ++
          " RETURN n".toList))))) := by
    simp [merge]
  rw [conjuncts, between_eq read (brace_notMem_label label _ (by decide)) h]

/-- The words of a merge, if there are no blanks in its clauses. -/
theorem words_merge (label : Identifier) {inside created : String} {onMatch : List String}
    (hi : ' ' ∉ inside.toList) (hc : ' ' ∉ created.toList)
    (hm : ∀ word ∈ onMatch, ' ' ∉ word.toList) (hne : onMatch ≠ []) :
    pieces ' ' (merge label.text inside ("ON CREATE SET " ++ created)
        ((String.singleton ' ').intercalate onMatch)) =
      ["MERGE", "(n:" ++ label.text ++ "\x7b" ++ inside ++ "\x7d)", "ON", "CREATE", "SET",
        created] ++ onMatch ++ ["RETURN", "n"] := by
  have joined : merge label.text inside ("ON CREATE SET " ++ created)
      ((String.singleton ' ').intercalate onMatch) = (String.singleton ' ').intercalate
        (["MERGE", "(n:" ++ label.text ++ "\x7b" ++ inside ++ "\x7d)", "ON", "CREATE", "SET",
          created] ++ onMatch ++ ["RETURN", "n"]) := by
    rw [List.append_assoc, String.intercalate_append_of_ne_nil (by simp) (by simp),
      String.intercalate_append_of_ne_nil hne (by simp), ← String.toList_inj]
    simp [merge]
  have pattern : ' ' ∉ ("(n:" ++ label.text ++ "\x7b" ++ inside ++ "\x7d)").toList := by
    have hl : ' ' ∉ label.text.toList := label.notMem (by decide) (by decide)
    simp [hi, hl]
  rw [joined]
  refine pieces_intercalate (by simp) ?_
  intro word hw
  simp only [List.mem_append, List.mem_cons, List.not_mem_nil, or_false] at hw
  rcases hw with ((rfl | rfl | rfl | rfl | rfl | rfl) | hw) | rfl | rfl
  · decide
  · exact pattern
  · decide
  · decide
  · decide
  · exact hc
  · exact hm word hw
  · decide
  · decide

/-- The words of the branch for a node that is there. -/
def matchWords (updated : Clause) : List String :=
  if updated.isEmpty then [""] else ["ON", "MATCH", "SET", updated.text]

theorem intercalate_matchWords (updated : Clause) :
    (String.singleton ' ').intercalate (matchWords updated) = Request.onMatch updated := by
  unfold matchWords Request.onMatch
  split
  · rfl
  · rw [← String.toList_inj]
    simp

section Assignments

variable (label : Identifier) {inside created : String} {updated : Clause}
  (hi : ' ' ∉ inside.toList) (hc : ' ' ∉ created.toList) (hu : ' ' ∉ updated.text.toList)

include hi hc hu

theorem pieces_merge :
    pieces ' ' (merge label.text inside ("ON CREATE SET " ++ created) (Request.onMatch updated)) =
      ["MERGE", "(n:" ++ label.text ++ "\x7b" ++ inside ++ "\x7d)", "ON", "CREATE", "SET",
        created] ++ matchWords updated ++ ["RETURN", "n"] := by
  rw [← intercalate_matchWords]
  refine words_merge label hi hc ?_ ?_
  · intro word hw
    unfold matchWords at hw
    split at hw
    · obtain rfl := List.mem_singleton.mp hw
      decide
    · simp only [List.mem_cons, List.not_mem_nil, or_false] at hw
      rcases hw with rfl | rfl | rfl | rfl
      · decide
      · decide
      · decide
      · exact hu
  · unfold matchWords
    split <;> simp

theorem assignments_create_merge :
    assignments "CREATE" (merge label.text inside ("ON CREATE SET " ++ created)
      (Request.onMatch updated)) = pieces ',' created := by
  rw [assignments, pieces_merge label hi hc hu]
  simp [assignmentsIn]

theorem assignments_match_merge :
    assignments "MATCH" (merge label.text inside ("ON CREATE SET " ++ created)
      (Request.onMatch updated)) = if updated.isEmpty then [] else pieces ',' updated.text := by
  rw [assignments, pieces_merge label hi hc hu, matchWords]
  split <;> simp [assignmentsIn]

end Assignments

example : assignments "CREATE" "MERGE (n:A\x7bB:$B\x7d) ON CREATE SET n.C=$c,n.D=$d  RETURN n" =
    ["n.C=$c", "n.D=$d"] := by decide

end Wording

/-! ### Parameters of the branches -/

namespace Request

/-- The parameters of the two branches of a merge. -/
def branchParameters (d u : Descriptor) (now : Float) (identifier : String)
    (onCreate onUpdate : Value) : Parameters :=
  (updatedValues u false (stamped now onUpdate)).map (Prod.map (onMatchPrefix ++ ·) id) ++
    (createdValues d onCreate identifier).map (Prod.map (onCreatePrefix ++ ·) id)

theorem nodup_keys_createdValues (d : Descriptor) (entity : Value) (identifier : String) :
    (Assoc.keys (createdValues d entity identifier)).Nodup := by
  rw [createdValues, ← Assoc.set_of_not_mem (d.identifierKey_notMem_settable entity)]
  exact Assoc.nodup_keys_set (Value.nodup_keys_storedValues _ _) _ _

/-- No parameter of one branch is one of the other. -/
theorem onMatch_ne_onCreate (a b : String) : onMatchPrefix ++ a ≠ onCreatePrefix ++ b := by
  intro h
  have chars := congrArg String.toList h
  simp [onMatchPrefix, onCreatePrefix] at chars

theorem lookup_createdValues (d : Descriptor) (entity : Value) (identifier key : String) :
    (createdValues d entity identifier).lookup key =
      if key = identifierKey then some (.text identifier)
      else (entity.storedValues d.settableFields).lookup key := by
  rw [createdValues, List.lookup_append]
  split
  · next hk =>
    have fresh : (entity.storedValues d.settableFields).lookup identifierKey = none :=
      Assoc.lookup_eq_none_iff.mpr (d.identifierKey_notMem_settable entity)
    rw [hk, fresh]
    rfl
  · next hk =>
    rw [List.lookup_cons, beq_eq_false_iff_ne.mpr hk]
    simp

/-- Nothing is found under another prefix. -/
theorem lookup_prefixed_eq_none {p q : String} (h : ∀ a b, p ++ a ≠ q ++ b) (values : Parameters)
    (key : String) : (values.map (Prod.map (p ++ ·) id)).lookup (q ++ key) = none := by
  rw [Assoc.lookup_eq_none_iff, Assoc.keys, List.map_map]
  intro hk
  obtain ⟨e, -, he⟩ := List.mem_map.mp hk
  exact h e.1 key he

section Branches

variable (d u : Descriptor) (now : Float) (identifier : String) (onCreate onUpdate : Value)

theorem lookup_branchParameters_onCreate (key : String) :
    (branchParameters d u now identifier onCreate onUpdate).lookup (onCreatePrefix ++ key) =
      (createdValues d onCreate identifier).lookup key := by
  rw [branchParameters, List.lookup_append, lookup_prefixed_eq_none onMatch_ne_onCreate,
    Option.none_or,
    Assoc.lookup_map (Clause.beq_append _), Option.map_id_apply]

theorem lookup_branchParameters_onMatch (key : String) :
    (branchParameters d u now identifier onCreate onUpdate).lookup (onMatchPrefix ++ key) =
      (updatedValues u false (stamped now onUpdate)).lookup key := by
  rw [branchParameters, List.lookup_append,
    lookup_prefixed_eq_none fun a b h => onMatch_ne_onCreate b a h.symm, Option.or_none,
    Assoc.lookup_map (Clause.beq_append _), Option.map_id_apply]

end Branches

/-! ### The statement of a merge and its parameters -/

/-- The statement of a merge. -/
def mergeStatement (d u : Descriptor) (now : Float) (identifier : String)
    (onCreate onUpdate : Value) (values : Parameters) : String :=
  Wording.merge d.label.text (Clause.ofValues .condition "" values).text
    ("ON CREATE SET " ++ (Clause.ofValues (.assignment nodeVariable) onCreatePrefix
      (createdValues d onCreate identifier)).text)
    (onMatch (.ofValues (.assignment nodeVariable) onMatchPrefix
      (updatedValues u false (stamped now onUpdate))))

/-- The parameters of a merge. -/
def mergeParameters (d u : Descriptor) (now : Float) (identifier : String)
    (onCreate onUpdate : Value) (values : Parameters) : Parameters :=
  Assoc.update (Assoc.update (Clause.ofValues .condition "" values).parameters
    (Clause.ofValues (.assignment nodeVariable) onCreatePrefix
      (createdValues d onCreate identifier)).parameters)
    (Clause.ofValues (.assignment nodeVariable) onMatchPrefix
      (updatedValues u false (stamped now onUpdate))).parameters

section Merge

variable {d u : Descriptor} (now : Float) (identifier : String) (onCreate onUpdate : Value)
  {values : Parameters}

/-- **The branches prevail**: the parameters of a merge hold what its branches bind, and only
then what its pattern does. -/
theorem lookup_mergeParameters (hn : (Assoc.keys values).Nodup) (name : String) :
    (mergeParameters d u now identifier onCreate onUpdate values).lookup name =
      ((branchParameters d u now identifier onCreate onUpdate).lookup name).or
        (values.lookup name) := by
  have apart : (Assoc.keys (updatedValues u false (stamped now onUpdate))).Nodup :=
    Value.nodup_keys_storedValues _ _
  rw [mergeParameters, Assoc.lookup_update, Assoc.lookup_update,
    Assoc.lookup_reverse_of_nodup (Clause.nodup_keys_parameters _),
    Assoc.lookup_reverse_of_nodup (Clause.nodup_keys_parameters _),
    Clause.parameters_ofValues_plain, Assoc.ofEntries_of_nodup hn,
    Clause.parameters_ofValues_of_nodup (nodup_keys_createdValues d onCreate identifier),
    Clause.parameters_ofValues_of_nodup apart, ← Option.or_assoc, ← List.lookup_append]
  rfl

variable {r r' : EntityRef} {c : Catalog} (hd : c.describeRef r = .ok d)
  (hu : c.describeRef r' = .ok u)
  (hv : ∀ k ∈ Assoc.keys values, isIdentifier k.toList = true)

include hd in
theorem isIdentifier_of_mem_createdValues {key : String}
    (hk : key ∈ Assoc.keys (createdValues d onCreate identifier)) :
    isIdentifier key.toList = true := by
  rw [createdValues, Assoc.keys, List.map_append, List.mem_append] at hk
  rcases hk with hk | hk
  · exact isIdentifier_of_mem_settable hd hk
  · obtain rfl : key = identifierKey := by simpa using hk
    decide

include hv in
/-- The pattern of a merge, read from its statement. -/
theorem conjuncts_mergeStatement :
    conjuncts (mergeStatement d u now identifier onCreate onUpdate values) =
      pieces ',' (Clause.ofValues .condition "" values).text :=
  Wording.conjuncts_merge d.label (Clause.notMem_text_ofValues hv (by decide)) _ _

include hd hu hv

/-- There is no blank in the clauses of a merge, so its words are read back. -/
theorem blank_notMem_clauses :
    ' ' ∉ (Clause.ofValues .condition "" values).text.toList ∧
      ' ' ∉ (Clause.ofValues (.assignment nodeVariable) onCreatePrefix
        (createdValues d onCreate identifier)).text.toList ∧
      ' ' ∉ (Clause.ofValues (.assignment nodeVariable) onMatchPrefix
        (updatedValues u false (stamped now onUpdate))).text.toList := by
  refine ⟨?_, ?_, ?_⟩
  · exact Clause.notMem_text_ofValues hv (by decide)
  · exact Clause.notMem_text_ofValues
      (fun _ hk => isIdentifier_of_mem_createdValues identifier onCreate hd hk) (by decide)
  · exact Clause.notMem_text_ofValues (fun _ hk => isIdentifier_of_mem_updatable hu hk)
      (by decide)

/-- The branch for a new node, read from the statement of a merge. -/
theorem mem_assignments_create_iff (key name : String) :
    (Binding.mk key name .null).text (.assignment nodeVariable) ∈
        assignments "CREATE" (mergeStatement d u now identifier onCreate onUpdate values) ↔
      key ∈ Assoc.keys (createdValues d onCreate identifier) ∧ onCreatePrefix ++ key = name := by
  obtain ⟨hi, hc, hm⟩ := blank_notMem_clauses now identifier onCreate onUpdate hd hu hv
  rw [mergeStatement, Wording.assignments_create_merge d.label hi hc hm]
  exact Clause.text_mem_pieces_iff
    (fun _ hk => isIdentifier_of_mem_createdValues identifier onCreate hd hk) (by decide) key name

/-- The branch for a node that is there, read from the statement of a merge: it is left out if
there is nothing to assign. -/
theorem mem_assignments_match_iff (key name : String) :
    (Binding.mk key name .null).text (.assignment nodeVariable) ∈
        assignments "MATCH" (mergeStatement d u now identifier onCreate onUpdate values) ↔
      key ∈ Assoc.keys (updatedValues u false (stamped now onUpdate)) ∧
        onMatchPrefix ++ key = name := by
  obtain ⟨hi, hc, hm⟩ := blank_notMem_clauses now identifier onCreate onUpdate hd hu hv
  rw [mergeStatement, Wording.assignments_match_merge d.label hi hc hm]
  split
  · next he =>
    have none : updatedValues u false (stamped now onUpdate) = [] := by
      simpa [Clause.isEmpty, Clause.ofValues] using he
    simp [none, Assoc.keys]
  · exact Clause.text_mem_pieces_iff (fun _ hk => isIdentifier_of_mem_updatable hu hk)
      (by decide) key name

/-! ### What is bound -/

/-- **The branch for a new node is bound to what it says.** -/
theorem created_bound (hn : (Assoc.keys values).Nodup) :
    AssignmentsBound "CREATE" (mergeStatement d u now identifier onCreate onUpdate values)
      (mergeParameters d u now identifier onCreate onUpdate values) fun key =>
        if key = identifierKey then some (.text identifier)
        else (onCreate.storedValues d.settableFields).lookup key where
  bound := by
    intro key name hm
    obtain ⟨hk, rfl⟩ := (mem_assignments_create_iff now identifier onCreate onUpdate hd hu hv key
      name).mp hm
    obtain ⟨v, hl⟩ := Assoc.exists_lookup_of_mem_keys hk
    refine ⟨v, (lookup_createdValues d onCreate identifier key).symm.trans hl, ?_⟩
    rw [lookup_mergeParameters now identifier onCreate onUpdate hn,
      lookup_branchParameters_onCreate, hl, Option.some_or]
  whole := by
    intro key v held
    have hk := Assoc.mem_keys_of_lookup
      ((lookup_createdValues d onCreate identifier key).trans held)
    exact ⟨_, (mem_assignments_create_iff now identifier onCreate onUpdate hd hu hv key _).mpr
      ⟨hk, rfl⟩⟩

/-- **The branch for a node that is there is bound to what it says.** -/
theorem updated_bound (hn : (Assoc.keys values).Nodup) :
    AssignmentsBound "MATCH" (mergeStatement d u now identifier onCreate onUpdate values)
      (mergeParameters d u now identifier onCreate onUpdate values) fun key =>
        ((stamped now onUpdate).storedValues u.updatableFields).lookup key where
  bound := by
    intro key name hm
    obtain ⟨hk, rfl⟩ := (mem_assignments_match_iff now identifier onCreate onUpdate hd hu hv key
      name).mp hm
    obtain ⟨v, hl⟩ := Assoc.exists_lookup_of_mem_keys hk
    refine ⟨v, hl, ?_⟩
    rw [lookup_mergeParameters now identifier onCreate onUpdate hn,
      lookup_branchParameters_onMatch]
    exact congrArg (Option.or · _) hl
  whole := by
    intro key v held
    exact ⟨_, (mem_assignments_match_iff now identifier onCreate onUpdate hd hu hv key _).mpr
      ⟨Assoc.mem_keys_of_lookup held, rfl⟩⟩

omit hd hu in
/-- **When the pattern is bound to what it says**: exactly if no property of it has the name
of a parameter of a branch that holds something else. -/
theorem pattern_bound_iff (hn : (Assoc.keys values).Nodup) :
    ConditionsBound (mergeStatement d u now identifier onCreate onUpdate values)
        (mergeParameters d u now identifier onCreate onUpdate values) (values.lookup ·) ↔
      ∀ key held other, values.lookup key = some held →
        (branchParameters d u now identifier onCreate onUpdate).lookup key = some other →
          held = other := by
  have read (key name : String) :
      key ++ ":$" ++ name ∈ conjuncts (mergeStatement d u now identifier onCreate onUpdate values) ↔
        key ∈ Assoc.keys values ∧ key = name := by
    rw [conjuncts_mergeStatement now identifier onCreate onUpdate hv]
    refine (Clause.text_mem_pieces_iff hv (by decide) key name).trans ?_
    rw [String.empty_append]
  constructor
  · rintro ⟨bound, -⟩ key held other hh ho
    have hk : key ∈ Assoc.keys values := Assoc.mem_keys_of_lookup hh
    obtain ⟨v, hv', hl⟩ := bound key key ((read key key).mpr ⟨hk, rfl⟩)
    -- The parameter of the branch prevails.
    rw [lookup_mergeParameters now identifier onCreate onUpdate hn, ho, Option.some_or] at hl
    obtain rfl := Option.some.inj hl
    exact Option.some.inj (hh.symm.trans hv')
  · intro agree
    constructor
    · intro key name hm
      obtain ⟨hk, rfl⟩ := (read key name).mp hm
      obtain ⟨v, hl⟩ := Assoc.exists_lookup_of_mem_keys hk
      refine ⟨v, hl, ?_⟩
      rw [lookup_mergeParameters now identifier onCreate onUpdate hn]
      cases hb : (branchParameters d u now identifier onCreate onUpdate).lookup key with
      | none => exact hl
      | some other => rw [agree key v other hl hb]; rfl
    · intro key v held
      exact ⟨key, (read key key).mpr ⟨Assoc.mem_keys_of_lookup held, rfl⟩⟩

end Merge

end Request

namespace Client

variable {σ : Type} [Database σ] {c : Catalog}

/-- A merge looks nothing up: all it sends is the statement of its request. -/
theorem mem_statements_merge {onCreate onUpdate properties : Value} {w : World σ}
    {sent : String × Value}
    (h : sent ∈ (perform c (.merge onCreate onUpdate properties)).statements w) :
    ∃ r, Request.merge c w.now w.nextIdentifier onCreate onUpdate properties = .ok r ∧
      sent = (r.statement, r.parameters) := by
  refine mem_statements_of_not_looksUp (.merge onCreate onUpdate properties) ?_ h
  intro r hr
  obtain ⟨type, _, _, _, _, _, _, _, _, _, _, _, _, _, rfl⟩ := Request.merge_eq_ok hr
  exact ⟨rfl, _, rfl⟩

/-- **What a merge binds.** The assignments of both branches are bound to what they say: those
for a new node to the values it is created with and to its identifier, those for a node that is
there to the values it is updated with, stamped with the time. The conditions of the pattern are
bound to what the translated property map holds exactly if no property of it has the name of a
parameter of a branch that holds something else. -/
theorem bound_of_mem_statements_merge {onCreate onUpdate properties : Value} {w : World σ}
    {statement : String} {parameters : Value}
    (h : (statement, parameters) ∈
      (perform c (.merge onCreate onUpdate properties)).statements w) :
    ∃ d u entries values, c.describeEntity onCreate = .ok d ∧
      c.describeEntity onUpdate = .ok u ∧ properties.mapping? = some entries ∧
      parameters = .ofParameters values ∧
      AssignmentsBound "CREATE" statement values (fun key =>
        if key = identifierKey then some (.text w.nextIdentifier)
        else (onCreate.storedValues d.settableFields).lookup key) ∧
      AssignmentsBound "MATCH" statement values (fun key =>
        ((Request.stamped w.now onUpdate).storedValues u.updatableFields).lookup key) ∧
      (ConditionsBound statement values (fun key => (d.translate entries).lookup (.text key)) ↔
        ∀ key held other, (d.translate entries).lookup (.text key) = some held →
          (Request.branchParameters d u w.now w.nextIdentifier onCreate onUpdate).lookup key =
            some other → held = other) := by
  obtain ⟨r, hr, hs⟩ := mem_statements_merge h
  obtain ⟨type, updatedType, entries, d, u, values, ht, hut, hp, -, hd, hu, hv, hk, rfl⟩ :=
    Request.merge_eq_ok hr
  obtain ⟨given, -, hg⟩ := Descriptor.translate_eq_ofNames hv
  obtain ⟨rfl, rfl⟩ := Prod.mk.inj hs
  have apart : (Assoc.keys values).Nodup := hg ▸ Assoc.nodup_keys_ofEntries given
  refine ⟨d, u, entries, _, Catalog.describeEntity_eq ht hd, Catalog.describeEntity_eq hut hu, hp,
    rfl, ?_, ?_, ?_⟩
  · exact Request.created_bound w.now w.nextIdentifier onCreate onUpdate hd hu hk apart
  · exact Request.updated_bound w.now w.nextIdentifier onCreate onUpdate hd hu hk apart
  · simp only [hv, Value.lookup_ofNames]
    exact Request.pattern_bound_iff w.now w.nextIdentifier onCreate onUpdate hk apart

/-- A merge of users by their address, with its branches bound. -/
theorem bound_of_mem_statements_merge_users :
    ∃ statement values d, (statement, Value.ofParameters values) ∈
        (perform Example.users (.merge (Example.userWith "a@x") (Example.userWith "b@x")
          (.map [(.text "email", .text "a@x")]))).statements (Example.connected []) ∧
      Example.users.describeEntity (Example.userWith "a@x") = .ok d ∧
      AssignmentsBound "CREATE" statement values fun key =>
        if key = identifierKey then some (.text (Example.connected []).nextIdentifier)
        else ((Example.userWith "a@x").storedValues d.settableFields).lookup key := by
  have sends : ((perform Example.users (.merge (Example.userWith "a@x") (Example.userWith "b@x")
      (.map [(.text "email", .text "a@x")]))).statements
        (Example.connected [])).isEmpty = false := by
    decide +kernel
  obtain ⟨⟨statement, parameters⟩, hs⟩ := List.exists_mem_of_ne_nil _
    (List.isEmpty_eq_false_iff.mp sends)
  obtain ⟨d, _, _, values, hd, -, -, rfl, created, -, -⟩ := bound_of_mem_statements_merge hs
  exact ⟨statement, values, d, hs, hd, created⟩

/-- The property `create_Uuid`, looked for with the value `x`, is looked for with the fresh
identifier instead. -/
theorem unbound_of_merge_create_Uuid :
    ¬ ∀ statement values d, (statement, Value.ofParameters values) ∈
        (perform Example.users (.merge (Example.userWith "a@x") (Example.userWith "b@x")
          (.map [(.text "create_Uuid", .text "x")]))).statements (Example.connected []) →
      Example.users.describeEntity (Example.userWith "a@x") = .ok d →
      ConditionsBound statement values fun key =>
        (d.translate [(.text "create_Uuid", .text "x")]).lookup (.text key) := by
  intro claim
  have sends : ((perform Example.users (.merge (Example.userWith "a@x") (Example.userWith "b@x")
      (.map [(.text "create_Uuid", .text "x")]))).statements
        (Example.connected [])).isEmpty = false := by
    decide +kernel
  -- The map translates to itself: no property is stored under another key.
  obtain ⟨d, described, wanted⟩ : ∃ d,
      Example.users.describeEntity (Example.userWith "a@x") = .ok d ∧
      (d.translate [(.text "create_Uuid", .text "x")]).lookup (.text "create_Uuid") =
        some (.text "x") := ⟨_, rfl, rfl⟩
  obtain ⟨⟨statement, parameters⟩, hs⟩ := List.exists_mem_of_ne_nil _
    (List.isEmpty_eq_false_iff.mp sends)
  obtain ⟨r, hr, he⟩ := mem_statements_merge hs
  obtain ⟨type, updatedType, entries, d', u, values, ht, hut, hp, -, hd, hu, hv, hk, rfl⟩ :=
    Request.merge_eq_ok hr
  obtain ⟨rfl, rfl⟩ := Prod.mk.inj he
  obtain rfl : [(Value.text "create_Uuid", Value.text "x")] = entries := Option.some.inj hp
  obtain rfl : d' = d :=
    Except.ok.inj ((Catalog.describeEntity_eq ht hd).symm.trans described)
  obtain ⟨given, -, hg⟩ := Descriptor.translate_eq_ofNames hv
  have bound := claim _ _ d' hs described
  simp only [hv, Value.lookup_ofNames] at wanted bound
  -- The property has the name of the parameter that the identifier is bound to.
  have other : (Request.branchParameters d' u (Example.connected []).now
      (Example.connected []).nextIdentifier (Example.userWith "a@x")
      (Example.userWith "b@x")).lookup "create_Uuid" =
        some (.text (Example.connected []).nextIdentifier) := by
    refine (Request.lookup_branchParameters_onCreate d' u _ _ _ _ identifierKey).trans ?_
    rw [Request.lookup_createdValues, if_pos rfl]
  have same := (Request.pattern_bound_iff _ _ _ _ hk
    (hg ▸ Assoc.nodup_keys_ofEntries given)).mp bound "create_Uuid" _ _ wanted other
  exact absurd (Value.text.inj same) (by decide +kernel)

end Client

end GraphMapper
