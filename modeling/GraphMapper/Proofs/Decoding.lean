import GraphMapper.Proofs.Clause

/-!
# Conditions that are read back

A condition is written in two places at once: its text names properties and parameters, and its
parameters hold the values. This file goes the other way. The text is cut at its commas, each part
is cut where a colon stands before a dollar sign, and the parameters are asked for the names that
come out (`GraphMapper.Clause.decoded`). This gives back the property map, with the order of its
entries (`GraphMapper.Clause.decoded_of_nodup`).

It does so because no identifier holds a comma, a colon or a dollar sign, and neither does a prefix
that is one: cuts are where they were meant to be, and nowhere else. A condition that comes about is
made of identifiers only; the first property that is none is what it fails with
(`GraphMapper.Clause.condition_recovers`).
-/

namespace GraphMapper

open Statement

namespace Statement

/-! ### Cutting at two characters -/

/-- The pieces of a row of characters between the places where two marks stand side by side. -/
def cutAtPair (first second : Char) : List Char → List (List Char)
  | [] => [[]]
  | [c] => [[c]]
  | c :: d :: rest =>
    if c = first ∧ d = second then [] :: cutAtPair first second rest
    else (cutAtPair first second (d :: rest)).modifyHead (c :: ·)

/-- The pieces of a text between the places where two marks stand side by side. -/
def pairPieces (first second : Char) (s : String) : List String :=
  (cutAtPair first second s.toList).map String.ofList

variable {first second : Char}

theorem cutAtPair_of_notMem {xs : List Char} (h : first ∉ xs) :
    cutAtPair first second xs = [xs] := by
  induction xs with
  | nil => rfl
  | cons c xs ih =>
    obtain ⟨differs, h⟩ := not_or.mp (List.mem_cons.not.mp h)
    cases xs with
    | nil => rfl
    | cons d rest =>
      rw [cutAtPair, if_neg fun marks => differs marks.1.symm, ih h]
      rfl

/-- The first place at which the marks stand is where the first cut is. -/
theorem cutAtPair_append {xs : List Char} (h : first ∉ xs) (ys : List Char) :
    cutAtPair first second (xs ++ first :: second :: ys) = xs :: cutAtPair first second ys := by
  induction xs with
  | nil => rw [List.nil_append, cutAtPair, if_pos ⟨rfl, rfl⟩]
  | cons c xs ih =>
    obtain ⟨differs, h⟩ := not_or.mp (List.mem_cons.not.mp h)
    obtain ⟨d, rest, behind⟩ : ∃ d rest, xs ++ first :: second :: ys = d :: rest := by
      cases xs with
      | nil => exact ⟨_, _, rfl⟩
      | cons d xs => exact ⟨_, _, rfl⟩
    have next := ih h
    rw [behind] at next
    rw [List.cons_append, behind, cutAtPair, if_neg fun marks => differs marks.1.symm, next]
    rfl

/-- A text with the marks in one place has one piece before and one behind them. -/
theorem pairPieces_eq {before behind s : String}
    (hs : s.toList = before.toList ++ first :: second :: behind.toList)
    (hb : first ∉ before.toList) (ha : first ∉ behind.toList) :
    pairPieces first second s = [before, behind] := by
  rw [pairPieces, hs, cutAtPair_append hb, cutAtPair_of_notMem ha]
  simp only [List.map_cons, List.map_nil, String.ofList_toList]

/-- Texts that are joined by a character have one of it less than there are texts. -/
theorem count_intercalate {c : Char} {parts : List String} (hne : parts ≠ [])
    (h : ∀ part ∈ parts, c ∉ part.toList) :
    ((String.singleton c).intercalate parts).toList.count c + 1 = parts.length := by
  induction parts with
  | nil => exact absurd rfl hne
  | cons part rest ih =>
    obtain ⟨hp, hr⟩ := List.forall_mem_cons.mp h
    have none : part.toList.count c = 0 := List.count_eq_zero.mpr hp
    rcases rest with _ | ⟨next, rest⟩
    · simpa using none
    · have others := ih (List.cons_ne_nil _ _) hr
      rw [String.intercalate_cons_cons, String.toList_append, String.toList_append,
        List.count_append, List.count_append, none, String.toList_singleton,
        List.count_singleton_self, List.length_cons]
      omega

end Statement

namespace Clause

/-! ### Reading a condition back -/

/-- The entry that a part of the text of a condition stands for, given the parameters. -/
def bound? (parameters : Parameters) (part : String) : Option (Value × Value) :=
  match pairPieces ':' '$' part with
  | [key, name] => (parameters.lookup name).map fun v => (.text key, v)
  | _ => none

/-- The property map that a text and parameters stand for. -/
def decoded (text : String) (parameters : Parameters) : Entries :=
  (pieces ',' text).filterMap (bound? parameters)

/-- **Nothing but what is found in the parameters matters.** -/
theorem decoded_congr {text : String} {parameters others : Parameters}
    (h : ∀ name, parameters.lookup name = others.lookup name) :
    decoded text parameters = decoded text others := by
  have same : bound? parameters = bound? others := by
    funext part
    simp only [bound?, h]
  rw [decoded, decoded, same]

variable {paramPrefix : String} {values : Parameters}

section Plain

variable (hv : ∀ k ∈ Assoc.keys values, isIdentifier k.toList = true)
  (hp : paramPrefix = "" ∨ isIdentifier paramPrefix.toList = true)

include hp in
/-- A prefix that is none or an identifier holds no mark. -/
theorem notMem_paramPrefix {c : Char} (hc : isIdentifierChar c = false) (hn : c ≠ '\n') :
    c ∉ paramPrefix.toList := by
  rcases hp with rfl | hp
  · simp
  · exact notMem_of_isIdentifier hp hc hn

include hp in
/-- A part of a condition is its property and its parameter. -/
theorem pairPieces_textOf {key : String} (hk : isIdentifier key.toList = true) :
    pairPieces ':' '$' (textOf .condition paramPrefix key) = [key, paramPrefix ++ key] := by
  have inKey : ':' ∉ key.toList := notMem_of_isIdentifier hk (by decide) (by decide)
  refine pairPieces_eq ?_ inKey ?_
  · rw [toList_textOf, subjectOf, String.toList_append, List.append_assoc]
    rfl
  · rw [String.toList_append, List.mem_append, not_or]
    exact ⟨notMem_paramPrefix hp (by decide) (by decide), inKey⟩

include hv hp

theorem pieces_condition (hne : values ≠ []) :
    pieces ',' (ofValues .condition paramPrefix values).text =
      (Assoc.keys values).map (textOf .condition paramPrefix) :=
  pieces_text_ofValues hv hne (by decide) (notMem_paramPrefix hp (by decide) (by decide))

/-- **The parts of a condition are its properties and parameters, in order.** -/
theorem pairs_condition (hne : values ≠ []) :
    (pieces ',' (ofValues .condition paramPrefix values).text).map (pairPieces ':' '$') =
      (Assoc.keys values).map fun key => [key, paramPrefix ++ key] := by
  rw [pieces_condition hv hp hne, List.map_map]
  exact List.map_congr_left fun key hk => pairPieces_textOf hp (hv key hk)

/-- There is one comma less than there are entries. -/
theorem count_comma (hne : values ≠ []) :
    (ofValues .condition paramPrefix values).text.toList.count ',' + 1 = values.length := by
  have parts : (Assoc.keys values).map (textOf .condition paramPrefix) ≠ [] := by
    simpa [Assoc.keys] using hne
  rw [text_ofValues]
  refine (count_intercalate parts ?_).trans (by simp [Assoc.keys])
  rintro _ hm
  obtain ⟨key, hk, rfl⟩ := List.mem_map.mp hm
  exact notMem_textOf (hv key hk) (by decide) (by decide) (by decide) (by decide)
    (notMem_paramPrefix hp (by decide) (by decide))

/-- **A condition is read back**: cut at its marks, it names the parameters that hold its values. -/
theorem decoded_of_nodup (apart : (Assoc.keys values).Nodup) :
    decoded (ofValues .condition paramPrefix values).text
      (ofValues .condition paramPrefix values).parameters = Value.ofNames values := by
  by_cases hne : values = []
  · subst hne
    rfl
  rw [decoded, pieces_condition hv hp hne, parameters_ofValues_of_nodup apart]
  have each : ∀ e ∈ values, bound? (values.map (Prod.map (paramPrefix ++ ·) id))
      (textOf .condition paramPrefix e.1) = some (.text e.1, e.2) := by
    intro e he
    have found : (values.map (Prod.map (paramPrefix ++ ·) id)).lookup (paramPrefix ++ e.1) =
        some e.2 := by
      rw [Assoc.lookup_map (beq_append paramPrefix), Assoc.lookup_of_mem apart he]
      rfl
    rw [bound?, pairPieces_textOf hp (hv e.1 (List.mem_map_of_mem he))]
    simp only [found, Option.map_some]
  rw [Assoc.keys, List.map_map, List.filterMap_map]
  exact (List.filterMap_congr each).trans (congrFun List.filterMap_eq_map values)

end Plain

/-- Entries under texts are values under different names if they are a map. -/
theorem nodup_keys_of_apart (h : Assoc.Apart (Value.ofNames values)) :
    (Assoc.keys values).Nodup := by
  unfold Assoc.Apart at h
  rw [Value.keys_ofNames, List.pairwise_map] at h
  refine h.imp fun differ same => ?_
  rw [Value.beq_text, same, beq_self_eq_true] at differ
  cases differ

/-- **What a condition says of a property map**: enough to find the map again. -/
structure Recovers (clause : Clause) (paramPrefix : String) (entries : Entries) : Prop where
  /-- The text of a map with entries, cut at commas and at colons before dollar signs, gives its
  properties with the names of their parameters, in order. -/
  parts : entries ≠ [] → (pieces ',' clause.text).map (pairPieces ':' '$') =
    entries.map fun e => [e.1.display, paramPrefix ++ e.1.display]
  /-- The parameters hold the values under these names, and nothing else. -/
  parameters : clause.parameters = entries.map fun e => (paramPrefix ++ e.1.display, e.2)
  /-- Every property is a text. -/
  named : ∀ e ∈ entries, e.1 = .text e.1.display
  /-- What is read back is the map. -/
  decoded : decoded clause.text clause.parameters = entries
  /-- There is one comma less than there are entries. -/
  commas : entries ≠ [] → clause.text.toList.count ',' + 1 = entries.length
  /-- There is a text unless the map is empty. -/
  unwritten : clause.text = "" ↔ entries = []
  /-- The clause says something unless the map is empty. -/
  empty : clause.isEmpty = true ↔ entries = []

theorem recovers_of_condition {entries : Entries} {clause : Clause}
    (hp : paramPrefix = "" ∨ isIdentifier paramPrefix.toList = true)
    (apart : Assoc.Apart entries) (h : condition paramPrefix entries = .ok clause) :
    clause.Recovers paramPrefix entries := by
  obtain ⟨values, rfl, hv, rfl⟩ := condition_eq_ok_iff.mp h
  have nodup := nodup_keys_of_apart apart
  have some_iff : Value.ofNames values ≠ [] ↔ values ≠ [] := by simp [Value.ofNames]
  refine ⟨fun hne => ?_, ?_, ?_, decoded_of_nodup hv hp nodup, fun hne => ?_, ?_, ?_⟩
  · rw [pairs_condition hv hp (some_iff.mp hne), Assoc.keys, Value.ofNames, List.map_map,
      List.map_map]
    rfl
  · rw [parameters_ofValues_of_nodup nodup, Value.ofNames, List.map_map]
    rfl
  · rintro _ he
    obtain ⟨e, -, rfl⟩ := List.mem_map.mp he
    rfl
  · rw [count_comma hv hp (some_iff.mp hne), Value.ofNames, List.length_map]
  · constructor
    · intro blank
      by_contra hne
      exact text_ofValues_ne_empty .condition paramPrefix (some_iff.mp hne) blank
    · intro none
      obtain rfl : values = [] := by simpa [Value.ofNames] using none
      rfl
  · simp [isEmpty, ofValues, Value.ofNames]

/-- What is no identifier is what is complained about. -/
theorem eq_of_require_eq_error {v : Value} {kind : String} {e : Failure}
    (h : Identifier.require v kind = .error e) : e = .invalidIdentifier v kind := by
  unfold Identifier.require at h
  split at h
  · cases h
  · exact (Except.error.inj h).symm

/-- A condition fails with the first property that is no identifier. -/
theorem exists_of_condition_eq_error {entries : Entries} {e : Failure}
    (h : condition paramPrefix entries = .error e) :
    ∃ before entry after, entries = before ++ entry :: after ∧
      (∀ e' ∈ before, ∃ i, Identifier.require e'.1 "property key" = .ok i) ∧
      Identifier.require entry.1 "property key" = .error e := by
  obtain ⟨bindings, hb⟩ : ∃ bindings : Except Failure (List Binding), entries.mapM (fun e => do
      let key ← Identifier.require e.1 "property key"
      pure (Binding.ofEntry paramPrefix key.text e.2)) = bindings := ⟨_, rfl⟩
  cases bindings with
  | ok bindings =>
    rw [condition, hb] at h
    cases h
  | error e' =>
    rw [condition, hb] at h
    obtain rfl := Except.error.inj h
    obtain ⟨before, entry, after, whole, passed, failed⟩ := Outcome.exists_of_mapM_eq_error hb
    refine ⟨before, entry, after, whole, fun e' he' => ?_, ?_⟩
    · obtain ⟨b, hb⟩ := passed e' he'
      obtain ⟨i, hi, -⟩ := Outcome.bind_eq_ok.mp hb
      exact ⟨i, hi⟩
    · cases asked : Identifier.require entry.1 "property key" with
      | ok i =>
        rw [asked] at failed
        cases failed
      | error e'' =>
        rw [asked] at failed
        rw [Except.error.inj failed]

/-- **What becomes of a property map.** Either it has a property that is no identifier, and the
first such is what is complained about; or all of its properties are identifiers, and there is a
condition from which the map is read back. So no other map has this text and these parameters, not
even one that differs only in the order of its entries. -/
theorem condition_recovers {entries : Entries}
    (hp : paramPrefix = "" ∨ isIdentifier paramPrefix.toList = true)
    (apart : Assoc.Apart entries) :
    (∃ before e after, entries = before ++ e :: after ∧
      (∀ e' ∈ before, ∃ i, Identifier.require e'.1 "property key" = .ok i) ∧
      Identifier.require e.1 "property key" = .error (.invalidIdentifier e.1 "property key") ∧
      condition paramPrefix entries = .error (.invalidIdentifier e.1 "property key")) ∨
    ((∀ e ∈ entries, ∃ i, Identifier.require e.1 "property key" = .ok i) ∧
      ∃ clause, condition paramPrefix entries = .ok clause ∧ clause.Recovers paramPrefix entries ∧
        ∀ others other, Assoc.Apart others → condition paramPrefix others = .ok other →
          other.text = clause.text →
          (∀ name, other.parameters.lookup name = clause.parameters.lookup name) →
            others = entries) := by
  cases made : condition paramPrefix entries with
  | error e =>
    obtain ⟨before, entry, after, whole, passed, failed⟩ := exists_of_condition_eq_error made
    obtain rfl := eq_of_require_eq_error failed
    exact .inl ⟨before, entry, after, whole, passed, failed, rfl⟩
  | ok clause =>
    have recovers := recovers_of_condition hp apart made
    refine .inr ⟨fun e he => ?_, clause, rfl, recovers,
      fun others other apart' made' text held => ?_⟩
    · obtain ⟨values, rfl, hv, -⟩ := condition_eq_ok_iff.mp made
      obtain ⟨e, hm, rfl⟩ := List.mem_map.mp he
      exact ⟨⟨e.1, hv e.1 (List.mem_map_of_mem hm)⟩, Identifier.require_eq_ok_iff.mpr rfl⟩
    · -- Both maps are read back, and what is read is the same.
      rw [← (recovers_of_condition hp apart' made').decoded, ← recovers.decoded, text,
        decoded_congr held]

/-- Two properties under a prefix are read back. -/
theorem condition_recovers_sinceUntil :
    isIdentifier "r_".toList = true ∧
      Assoc.Apart [(Value.text "since", Value.int 2020), (.text "until", .null)] ∧
      ∃ clause, condition "r_" [(.text "since", .int 2020), (.text "until", .null)] = .ok clause ∧
        clause.Recovers "r_" [(.text "since", .int 2020), (.text "until", .null)] := by
  have named : isIdentifier "r_".toList = true := by decide
  have apart : Assoc.Apart [(Value.text "since", Value.int 2020), (.text "until", .null)] := by
    simp [Assoc.Apart, Assoc.keys, Value.beq_text]
  refine ⟨named, apart, ?_⟩
  rcases condition_recovers (.inr named) apart with
    ⟨_, _, _, -, -, -, fails⟩ | ⟨-, clause, made, h, -⟩
  · cases fails
  · exact ⟨clause, made, h⟩

example : (condition "r_" [(.text "since", .int 2020), (.text "until", .null)]).toOption.map text =
    some "since:$r_since,until:$r_until" := rfl

end Clause

end GraphMapper
