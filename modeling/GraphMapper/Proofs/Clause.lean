import GraphMapper.Clause
import GraphMapper.Proofs.Assoc
import GraphMapper.Proofs.Outcome
import GraphMapper.Proofs.Statement.Reading

/-!
# What clauses say and bind

Every clause that a statement holds is made of values under names and a prefix for their
parameters: `GraphMapper.Clause.ofValues`. This file says what its text is, read as in
`GraphMapper.Statement`, and what its parameters hold. Three things matter throughout.

* **Names only.** The text depends on the names and on nothing else
  (`GraphMapper.Clause.text_ofValues_congr`): the values are not in it.
* **Plain names.** A name that was accepted as an identifier holds no mark of a statement – no
  dollar sign, comma, brace or blank – so the text is read back exactly
  (`GraphMapper.Clause.pieces_text_ofValues`, `GraphMapper.Clause.references_text_ofValues`).
* **Part by part.** Two clauses joined are the clause of the values of both
  (`GraphMapper.Clause.text_ofValues_append`, `GraphMapper.Clause.parameters_ofValues_append`).
-/

namespace GraphMapper

/-! ### Values under names -/

namespace Value

theorem beq_text (a b : String) : (Value.text a == Value.text b) = (a == b) := rfl

@[simp] theorem keys_ofNames (values : Parameters) :
    Assoc.keys (ofNames values) = (Assoc.keys values).map .text := by
  simp [Assoc.keys, ofNames]

theorem ofNames_injective : Function.Injective ofNames := by
  intro l l' h
  refine List.map_injective_iff.mpr ?_ h
  rintro ⟨a, v⟩ ⟨b, w⟩ hab
  simpa using hab

/-- Making a map commutes with taking names as keys. -/
theorem ofEntries_ofNames (values : Parameters) :
    Assoc.ofEntries (ofNames values) = ofNames (Assoc.ofEntries values) :=
  Assoc.ofEntries_map beq_text id values

theorem lookup_ofNames (name : String) (values : Parameters) :
    (ofNames values).lookup (.text name) = values.lookup name :=
  (Assoc.lookup_map beq_text id name values).trans (Option.map_id_apply)

/-- Entries under texts are values under names. -/
theorem exists_ofNames {entries : Entries} (h : ∀ k ∈ Assoc.keys entries, ∃ s, k = .text s) :
    ∃ values, entries = ofNames values := by
  induction entries with
  | nil => exact ⟨[], rfl⟩
  | cons e rest ih =>
    obtain ⟨values, rfl⟩ := ih fun k hk => h k (List.mem_cons_of_mem _ hk)
    obtain ⟨s, hs⟩ := h e.1 List.mem_cons_self
    refine ⟨(s, e.2) :: values, ?_⟩
    simp only [ofNames, List.map_cons, ← hs]

end Value

/-- **Translation, undone**: if all properties of a translated map are texts, then so are
those that the entries stand for, and the map is made of these. -/
theorem Descriptor.translate_eq_ofNames {d : Descriptor} {entries : Entries} {values : Parameters}
    (h : d.translate entries = Value.ofNames values) :
    ∃ given, entries.map (fun e => (d.graphKey e.1, e.2)) = Value.ofNames given ∧
      values = Assoc.ofEntries given := by
  have texts : ∀ k ∈ Assoc.keys (entries.map fun e => (d.graphKey e.1, e.2)),
      ∃ s, k = .text s := by
    intro k hk
    -- Values that count as the same key need not be the same; but a text equals only texts.
    obtain ⟨b, hb, hbk⟩ := Assoc.exists_mem_keys_update hk []
    rw [← Assoc.ofEntries, ← Descriptor.translate, h, Value.keys_ofNames] at hb
    obtain ⟨s, -, rfl⟩ := List.mem_map.mp hb
    rcases hbk with rfl | hbk
    · exact ⟨s, rfl⟩
    · cases k with
      | text t => exact ⟨t, rfl⟩
      | _ => cases hbk
  obtain ⟨given, hg⟩ := Value.exists_ofNames texts
  refine ⟨given, hg, Value.ofNames_injective ?_⟩
  rw [← h, ← Value.ofEntries_ofNames, ← hg, Descriptor.translate]

/-! ### Identifiers hold no marks -/

theorem notMem_of_isIdentifier {cs : List Char} (h : isIdentifier cs = true) {c : Char}
    (hc : isIdentifierChar c = false) (hn : c ≠ '\n') : c ∉ cs := by
  -- Behind the head, a line feed is let through, but only as the last character.
  have continued (cs : List Char) (h : continuesIdentifier cs = true) : c ∉ cs := by
    induction cs with
    | nil => exact List.not_mem_nil
    | cons d rest ih =>
      rcases Bool.or_eq_true _ _ ▸ h with h | h
      · obtain ⟨hd, hr⟩ := Bool.and_eq_true _ _ ▸ h
        rw [List.mem_cons, not_or]
        refine ⟨?_, ih hr⟩
        rintro rfl
        simp [hd] at hc
      · obtain ⟨hd, hr⟩ : d = '\n' ∧ rest = [] := by simpa using h
        rw [hd, hr]
        simpa using hn
  cases cs with
  | nil => exact List.not_mem_nil
  | cons d rest =>
    obtain ⟨hd, hr⟩ := Bool.and_eq_true _ _ ▸ h
    rw [List.mem_cons, not_or]
    refine ⟨?_, continued rest hr⟩
    rintro rfl
    rw [Statement.isIdentifierChar_of_isIdentifierHead hd] at hc
    cases hc

theorem Identifier.notMem (i : Identifier) {c : Char} (hc : isIdentifierChar c = false)
    (hn : c ≠ '\n') : c ∉ i.text.toList :=
  notMem_of_isIdentifier i.accepted hc hn

/-! ### Fragments that are joined -/

section Joined

variable {fragments : List String}

theorem intercalate_ne_empty {separator : String} (hne : fragments ≠ [])
    (h : ∀ fragment ∈ fragments, fragment ≠ "") : separator.intercalate fragments ≠ "" := by
  obtain ⟨first, rest, rfl⟩ := List.exists_cons_of_ne_nil hne
  have some := h first List.mem_cons_self
  rcases rest with _ | ⟨next, rest⟩
  · simpa using some
  · simp [some]

/-- What is joined is empty only if nothing is left of the fragments. -/
theorem filter_eq_nil_iff_joinClauses :
    fragments.filter (· ≠ "") = [] ↔ joinClauses fragments = "" := by
  constructor
  · intro none
    rw [joinClauses, none, String.intercalate_nil]
  · intro h
    by_contra some
    exact intercalate_ne_empty some (by simp) h

/-- Of two fragments of which one is empty, the other one is left. -/
theorem joinClauses_pair_empty (fragment : String) :
    joinClauses ["", fragment] = fragment ∧ joinClauses [fragment, ""] = fragment := by
  by_cases h : fragment = "" <;> simp [joinClauses, h]

theorem joinClauses_pair {fragment other : String} (hf : fragment ≠ "") (ho : other ≠ "") :
    joinClauses [fragment, other] = fragment ++ clauseSeparator ++ other := by
  simp [joinClauses, hf, ho]

/-- **Joining part by part**: what comes of the parts of a list, joined, is what comes of the whole
list. -/
theorem joinClauses_append (fragments others : List String) :
    joinClauses (fragments ++ others) =
      joinClauses [joinClauses fragments, joinClauses others] := by
  by_cases hf : joinClauses fragments = ""
  · rw [hf, (joinClauses_pair_empty _).1, joinClauses, List.filter_append,
      filter_eq_nil_iff_joinClauses.mpr hf, List.nil_append, joinClauses]
  by_cases ho : joinClauses others = ""
  · rw [ho, (joinClauses_pair_empty _).2, joinClauses, List.filter_append,
      filter_eq_nil_iff_joinClauses.mpr ho, List.append_nil, joinClauses]
  -- Something is left on both sides, so there is one separator between what is.
  rw [joinClauses_pair hf ho, joinClauses, List.filter_append,
    String.intercalate_append_of_ne_nil (mt filter_eq_nil_iff_joinClauses.mp hf)
      (mt filter_eq_nil_iff_joinClauses.mp ho), joinClauses, joinClauses]

end Joined

/-! ### Clauses of values -/

namespace Clause

/-- The clause that binds values under names to parameters with a prefix. -/
def ofValues (form : ClauseForm) (paramPrefix : String) (values : Parameters) : Clause :=
  ⟨form, values.map fun e => Binding.ofEntry paramPrefix e.1 e.2⟩

/-- **What a condition is made of**: entries under identifiers, and nothing else. -/
theorem condition_eq_ok_iff {paramPrefix : String} {entries : Entries} {clause : Clause} :
    condition paramPrefix entries = .ok clause ↔ ∃ values, entries = Value.ofNames values ∧
      (∀ k ∈ Assoc.keys values, isIdentifier k.toList = true) ∧
      clause = ofValues .condition paramPrefix values := by
  have one (e : Value × Value) (b : Binding) :
      (do let key ← Identifier.require e.1 "property key"
          pure (Binding.ofEntry paramPrefix key.text e.2) : Except Failure Binding) = .ok b ↔
        ∃ i : Identifier, e.1 = .text i.text ∧ b = Binding.ofEntry paramPrefix i.text e.2 := by
    rw [Outcome.bind_eq_ok]
    refine exists_congr fun i => ?_
    rw [Identifier.require_eq_ok_iff, Outcome.pure_eq_ok, eq_comm (a := b)]
  rw [condition, Outcome.bind_eq_ok]
  simp only [Outcome.mapM_eq_ok, Outcome.pure_eq_ok, one]
  constructor
  · rintro ⟨bindings, hb, rfl⟩
    induction hb with
    | nil => exact ⟨[], rfl, by simp, rfl⟩
    | @cons e b _ _ h _ ih =>
      obtain ⟨i, hi, rfl⟩ := h
      obtain ⟨values, rfl, hv, hc⟩ := ih
      refine ⟨(i.text, e.2) :: values, ?_, ?_, ?_⟩
      · simp only [Value.ofNames, List.map_cons, ← hi]
      · simpa [i.accepted] using hv
      · simpa [ofValues] using hc
  · rintro ⟨values, rfl, hv, rfl⟩
    refine ⟨_, ?_, rfl⟩
    induction values with
    | nil => exact .nil
    | cons e values ih =>
      refine .cons ⟨⟨e.1, hv e.1 List.mem_cons_self⟩, rfl, rfl⟩ ?_
      exact ih fun k hk => hv k (List.mem_cons_of_mem _ hk)

/-! ### The text of a clause -/

variable {form : ClauseForm} {paramPrefix : String}

/-- What stands in front of the dollar sign of a binding. -/
def subjectOf (key : String) : ClauseForm → String
  | .condition => key ++ ":"
  | .assignment node => node ++ "." ++ key ++ "="

/-- The text that binds a property to the parameter with a prefix. -/
def textOf (form : ClauseForm) (paramPrefix key : String) : String :=
  (Binding.ofEntry paramPrefix key .null).text form

theorem toList_textOf (form : ClauseForm) (paramPrefix key : String) :
    (textOf form paramPrefix key).toList =
      (subjectOf key form).toList ++ '$' :: (paramPrefix ++ key).toList := by
  cases form <;> simp [textOf, subjectOf, Binding.text, Binding.ofEntry]

theorem text_ofValues (form : ClauseForm) (paramPrefix : String) (values : Parameters) :
    (ofValues form paramPrefix values).text =
      clauseSeparator.intercalate ((Assoc.keys values).map (textOf form paramPrefix)) := by
  rw [text, ofValues, List.map_map, Assoc.keys, List.map_map]
  rcases form with _ | node <;> rfl

/-- **Values are not in the text.** -/
theorem text_ofValues_congr {values values' : Parameters}
    (h : Assoc.keys values = Assoc.keys values') :
    (ofValues form paramPrefix values).text = (ofValues form paramPrefix values').text := by
  rw [text_ofValues, text_ofValues, h]

theorem isEmpty_ofValues_congr {values values' : Parameters}
    (h : Assoc.keys values = Assoc.keys values') :
    (ofValues form paramPrefix values).isEmpty = (ofValues form paramPrefix values').isEmpty := by
  have empty (values : Parameters) :
      (ofValues form paramPrefix values).isEmpty = (Assoc.keys values).isEmpty := by
    cases values <;> rfl
  rw [empty, empty, h]

/-! ### Reading the text of a clause -/

/-- What stands around the property in front of a dollar sign. -/
theorem mem_subjectOf {c : Char} {key : String} :
    c ∈ (subjectOf key form).toList → c ∈ key.toList ∨ c ∈ (subjectOf "" form).toList := by
  cases form with
  | condition => simp [subjectOf]
  | assignment node =>
    simp only [subjectOf, String.toList_append, List.mem_append]
    rintro (((h | h) | h) | h)
    · exact .inr (.inl (.inl (.inl h)))
    · exact .inr (.inl (.inl (.inr h)))
    · exact .inl h
    · exact .inr (.inr h)

/-- **A plain name holds no mark**: a character that is in neither the form nor the prefix of
a clause is in none of its bindings. -/
theorem notMem_textOf {c : Char} {key : String} (hk : isIdentifier key.toList = true)
    (hc : isIdentifierChar c = false) (hn : c ≠ '\n') (hd : c ≠ '$')
    (hf : c ∉ (subjectOf "" form).toList) (hp : c ∉ paramPrefix.toList) :
    c ∉ (textOf form paramPrefix key).toList := by
  have hck : c ∉ key.toList := notMem_of_isIdentifier hk hc hn
  rw [toList_textOf, List.mem_append, List.mem_cons, String.toList_append, List.mem_append]
  rintro (h | rfl | h | h)
  · exact (mem_subjectOf h).elim hck hf
  · exact hd rfl
  · exact hp h
  · exact hck h

theorem notMem_intercalate {c : Char} {separator : String} {parts : List String}
    (hs : c ∉ separator.toList) (h : ∀ part ∈ parts, c ∉ part.toList) :
    c ∉ (separator.intercalate parts).toList := by
  induction parts with
  | nil => simp
  | cons part rest ih =>
    have hr := ih fun p hp => h p (List.mem_cons_of_mem _ hp)
    have hp := h part List.mem_cons_self
    rcases rest with _ | ⟨next, rest⟩
    · simpa using hp
    · rw [String.intercalate_cons_cons, String.toList_append, String.toList_append,
        List.mem_append, List.mem_append]
      rintro ((h | h) | h)
      · exact hp h
      · exact hs h
      · exact hr h

/-- Whether a character stands in no clause of a form and with a prefix, whatever its properties
are. -/
def avoids (form : ClauseForm) (paramPrefix : String) (c : Char) : Bool :=
  !isIdentifierChar c && c != '\n' && c != '$' && c != ',' &&
    !(subjectOf "" form).toList.contains c && !paramPrefix.toList.contains c

section Marks

variable {values : Parameters} (hv : ∀ k ∈ Assoc.keys values, isIdentifier k.toList = true)

include hv

theorem notMem_text_ofValues {c : Char} (h : avoids form paramPrefix c = true) :
    c ∉ (ofValues form paramPrefix values).text.toList := by
  obtain ⟨⟨⟨⟨⟨hc, hn⟩, hd⟩, hs⟩, hf⟩, hp⟩ : ((((isIdentifierChar c = false ∧ c ≠ '\n') ∧ c ≠ '$') ∧
      c ≠ ',') ∧ c ∉ (subjectOf "" form).toList) ∧ c ∉ paramPrefix.toList := by
    simpa [avoids] using h
  rw [text_ofValues]
  refine notMem_intercalate (fun h => hs (List.mem_singleton.mp h)) ?_
  rintro _ hm
  obtain ⟨key, hk, rfl⟩ := List.mem_map.mp hm
  exact notMem_textOf (hv key hk) hc hn hd hf hp

/-- **The text of a clause, cut at its commas, is its bindings.** -/
theorem pieces_text_ofValues (hne : values ≠ []) (hf : ',' ∉ (subjectOf "" form).toList)
    (hp : ',' ∉ paramPrefix.toList) : Statement.pieces ',' (ofValues form paramPrefix values).text =
      (Assoc.keys values).map (textOf form paramPrefix) := by
  rw [text_ofValues]
  refine Statement.pieces_intercalate (by simpa [Assoc.keys] using hne) ?_
  rintro _ hm
  obtain ⟨key, hk, rfl⟩ := List.mem_map.mp hm
  exact notMem_textOf (hv key hk) (by decide) (by decide) (by decide) hf hp

end Marks

/-- **A clause refers to the parameters that it binds**, if their names are plain. -/
theorem references_text_ofValues {values : Parameters}
    (hv : ∀ k ∈ Assoc.keys values, Statement.isName (paramPrefix ++ k) = true)
    (hd : ∀ k ∈ Assoc.keys values, '$' ∉ (subjectOf k form).toList) :
    Statement.references (ofValues form paramPrefix values).text =
      (Assoc.keys values).map (paramPrefix ++ ·) := by
  rw [text_ofValues]
  generalize Assoc.keys values = keys at hv hd ⊢
  induction keys with
  | nil => rfl
  | cons key rest ih =>
    have one : Statement.references (textOf form paramPrefix key) = [paramPrefix ++ key] :=
      Statement.references_dollar (hv key List.mem_cons_self) (hd key List.mem_cons_self)
        (toList_textOf form paramPrefix key)
    have tail := ih (fun k hk => hv k (List.mem_cons_of_mem _ hk))
      fun k hk => hd k (List.mem_cons_of_mem _ hk)
    rcases rest with _ | ⟨next, rest⟩
    · simpa using one
    · -- The comma ends the name in front of it.
      have comma : Statement.isGap clauseSeparator = true := by decide
      rw [List.map_cons, List.map_cons, String.intercalate_cons_cons, ← List.map_cons,
        String.append_assoc, Statement.references_past comma, one, tail]
      rfl

/-! ### Clauses that are joined -/

theorem textOf_ne_empty (form : ClauseForm) (paramPrefix key : String) :
    textOf form paramPrefix key ≠ "" := by
  intro h
  have := toList_textOf form paramPrefix key
  rw [h] at this
  simp at this

theorem ne_empty_of_mem_textOf {keys : List String} :
    ∀ part ∈ keys.map (textOf form paramPrefix), part ≠ "" := by
  rintro _ hm
  obtain ⟨key, -, rfl⟩ := List.mem_map.mp hm
  exact textOf_ne_empty form paramPrefix key

theorem text_ofValues_ne_empty (form : ClauseForm) (paramPrefix : String) {values : Parameters}
    (hne : values ≠ []) : (ofValues form paramPrefix values).text ≠ "" := by
  rw [text_ofValues]
  exact intercalate_ne_empty (by simpa [Assoc.keys] using hne) ne_empty_of_mem_textOf

/-- No binding is empty, so that bindings are joined like any fragments. -/
theorem text_ofValues_eq_joinClauses (form : ClauseForm) (paramPrefix : String)
    (values : Parameters) : (ofValues form paramPrefix values).text =
      joinClauses ((Assoc.keys values).map (textOf form paramPrefix)) := by
  rw [text_ofValues, joinClauses, List.filter_eq_self.mpr]
  exact fun part hm => decide_eq_true (ne_empty_of_mem_textOf part hm)

/-- **Two clauses joined are the clause of all their values.** -/
theorem text_ofValues_append (form : ClauseForm) (paramPrefix : String)
    (values others : Parameters) : (ofValues form paramPrefix (values ++ others)).text =
      joinClauses [(ofValues form paramPrefix values).text,
        (ofValues form paramPrefix others).text] := by
  simp only [text_ofValues_eq_joinClauses, Assoc.keys, List.map_append, joinClauses_append]

/-- A binding that is joined to a clause is one more binding of it. -/
theorem joinClauses_ofValues (form : ClauseForm) (paramPrefix : String) (values : Parameters)
    (key : String) (value : Value) :
    joinClauses [(ofValues form paramPrefix values).text, textOf form paramPrefix key] =
      (ofValues form paramPrefix (values ++ [(key, value)])).text := by
  have one : (ofValues form paramPrefix [(key, value)]).text = textOf form paramPrefix key := by
    rw [text_ofValues]
    exact String.intercalate_singleton
  rw [text_ofValues_append, one]

/-! ### What the parameters hold -/

theorem beq_append (paramPrefix a b : String) :
    ((paramPrefix ++ a) == (paramPrefix ++ b)) = (a == b) := by
  rw [Bool.eq_iff_iff, beq_iff_eq, beq_iff_eq, String.append_right_inj]

/-- The parameters of a clause are its values, each under its name with the prefix. -/
theorem parameters_ofValues (form : ClauseForm) (paramPrefix : String) (values : Parameters) :
    (ofValues form paramPrefix values).parameters =
      (Assoc.ofEntries values).map (Prod.map (paramPrefix ++ ·) id) := by
  rw [← Assoc.ofEntries_map (beq_append paramPrefix), parameters, ofValues, List.map_map]
  rfl

/-- The parameters of a clause whose properties come once each. -/
theorem parameters_ofValues_of_nodup {values : Parameters}
    (h : (Assoc.keys values).Nodup) (form : ClauseForm) (paramPrefix : String) :
    (ofValues form paramPrefix values).parameters =
      values.map (Prod.map (paramPrefix ++ ·) id) := by
  rw [parameters_ofValues, Assoc.ofEntries_of_nodup h]

/-- Without a prefix they stay under their own names. -/
theorem parameters_ofValues_plain (form : ClauseForm) (values : Parameters) :
    (ofValues form "" values).parameters = Assoc.ofEntries values := by
  have same : Prod.map ("" ++ ·) id = (id : String × Value → String × Value) := by
    funext e
    rw [Prod.map, String.empty_append]
    rfl
  rw [parameters_ofValues, same, List.map_id]

theorem nodup_keys_parameters (clause : Clause) : (Assoc.keys clause.parameters).Nodup :=
  Assoc.nodup_keys_ofEntries _

theorem mem_keys_parameters_ofValues {values : Parameters} {name : String} :
    name ∈ Assoc.keys (ofValues form paramPrefix values).parameters ↔
      ∃ key ∈ Assoc.keys values, paramPrefix ++ key = name := by
  rw [parameters_ofValues, Assoc.keys, List.map_map, List.mem_map]
  simp only [← Assoc.mem_keys_ofEntries values]
  simp only [Assoc.keys, List.mem_map]
  constructor
  · rintro ⟨e, he, rfl⟩
    exact ⟨e.1, ⟨e, he, rfl⟩, rfl⟩
  · rintro ⟨_, ⟨e, he, rfl⟩, rfl⟩
    exact ⟨e, he, rfl⟩

/-- Two clauses joined bind what each of them binds, the second one prevailing. -/
theorem parameters_ofValues_append (form : ClauseForm) (paramPrefix : String)
    (values : Parameters) {others : Parameters} (h : (Assoc.keys others).Nodup) :
    (ofValues form paramPrefix (values ++ others)).parameters =
      Assoc.update (ofValues form paramPrefix values).parameters
        (ofValues form paramPrefix others).parameters := by
  rw [parameters_ofValues, parameters_ofValues, parameters_ofValues, Assoc.ofEntries_of_nodup h,
    Assoc.update_map (beq_append paramPrefix), Assoc.ofEntries, Assoc.update_append,
    ← Assoc.ofEntries]

theorem parameters_ofValues_concat (values : Parameters) (key : String) (value : Value) :
    (ofValues form paramPrefix (values ++ [(key, value)])).parameters =
      Assoc.set (paramPrefix ++ key) value (ofValues form paramPrefix values).parameters :=
  parameters_ofValues_append form paramPrefix values (List.pairwise_singleton _ _)

end Clause

end GraphMapper
