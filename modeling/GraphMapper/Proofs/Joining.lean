import GraphMapper.Proofs.Decoding

/-!
# Fragments that are joined

Fragments of clauses are joined by commas, and empty ones leave no trace: no comma stands at an edge
of what comes out, and none beside another one. So it does not matter in which groups fragments are
joined (`GraphMapper.joinClauses_flatten`), and as long as no fragment holds a comma, those that say
something are found again (`GraphMapper.pieces_joinClauses`).

The same is true of conditions. Two property maps that share no property make one, and the
conditions of the two, joined, are the condition of this one
(`GraphMapper.Clause.condition_update`).
-/

namespace GraphMapper

open Statement

/-! ### Groups of fragments -/

theorem joinClauses_eq_empty_iff {fragments : List String} :
    joinClauses fragments = "" ↔ ∀ fragment ∈ fragments, fragment = "" := by
  rw [← filter_eq_nil_iff_joinClauses, List.filter_eq_nil_iff]
  simp

/-- **However fragments are grouped, the same comes out.** By induction: the first group is one
part, all others are the other one. -/
theorem joinClauses_flatten (groups : List (List String)) :
    joinClauses groups.flatten = joinClauses (groups.map joinClauses) := by
  have alone (fragment : String) : joinClauses [fragment] = fragment := by
    by_cases h : fragment = "" <;> simp [joinClauses, h]
  induction groups with
  | nil => rfl
  | cons group groups ih =>
    calc joinClauses (group ++ groups.flatten)
        = joinClauses [joinClauses group, joinClauses groups.flatten] := joinClauses_append _ _
      _ = joinClauses [joinClauses [joinClauses group], joinClauses (groups.map joinClauses)] := by
          rw [alone, ih]
      _ = joinClauses (joinClauses group :: groups.map joinClauses) :=
          (joinClauses_append [joinClauses group] _).symm

example : joinClauses ["a:$a", "", "b:$b"] = "a:$a,b:$b" ∧ joinClauses ["", ""] = "" := by decide

/-- **Fragments without commas are found again**, but for those that are empty. -/
theorem pieces_joinClauses {fragments : List String}
    (h : ∀ fragment ∈ fragments, ',' ∉ fragment.toList) (hne : joinClauses fragments ≠ "") :
    pieces ',' (joinClauses fragments) = fragments.filter (· ≠ "") :=
  pieces_intercalate (mt filter_eq_nil_iff_joinClauses.mp hne) fun fragment hm =>
    h fragment (List.mem_of_mem_filter hm)

/-! ### Conditions of two maps -/

namespace Clause

/-- A property map that makes a condition: no property comes twice, and each is an identifier. -/
structure IsAccepted (entries : Entries) : Prop where
  /-- The properties are told apart. -/
  apart : Assoc.Apart entries
  /-- Each is an identifier. -/
  named : ∀ key ∈ Assoc.keys entries, ∃ i, Identifier.require key "property key" = .ok i

/-- **A clause that says what two clauses say.** -/
structure IsJoin (whole first second : Clause) : Prop where
  /-- Its text is theirs, joined. -/
  text : whole.text = joinClauses [first.text, second.text]
  /-- It binds what each of them binds. -/
  parameters : whole.parameters = Assoc.update first.parameters second.parameters

theorem IsAccepted.exists_values {entries : Entries} (h : IsAccepted entries) :
    ∃ values, entries = Value.ofNames values ∧ (Assoc.keys values).Nodup ∧
      ∀ key ∈ Assoc.keys values, isIdentifier key.toList = true := by
  have texts : ∀ key ∈ Assoc.keys entries, ∃ i : Identifier, key = .text i.text := by
    intro key hk
    obtain ⟨i, hi⟩ := h.named key hk
    exact ⟨i, Identifier.require_eq_ok_iff.mp hi⟩
  obtain ⟨values, rfl⟩ : ∃ values, entries = Value.ofNames values := by
    refine Value.exists_ofNames fun key hk => ?_
    obtain ⟨i, hi⟩ := texts key hk
    exact ⟨i.text, hi⟩
  refine ⟨values, rfl, nodup_keys_of_apart h.apart, fun key hk => ?_⟩
  obtain ⟨i, hi⟩ := texts (.text key) (by rw [Value.keys_ofNames]; exact List.mem_map_of_mem hk)
  obtain rfl : key = i.text := Value.text.inj hi
  exact i.accepted

/-- **The condition of two maps that share no property.** The maps are one then, and its condition
says what theirs say. -/
theorem condition_update {paramPrefix : String} {entries others : Entries}
    (he : IsAccepted entries) (ho : IsAccepted others)
    (disjoint : ∀ key ∈ Assoc.keys entries, ∀ other ∈ Assoc.keys others, (key == other) = false) :
    ∃ first second whole, condition paramPrefix entries = .ok first ∧
      condition paramPrefix others = .ok second ∧
      condition paramPrefix (Assoc.update entries others) = .ok whole ∧
      whole.IsJoin first second := by
  have together : Assoc.Apart (entries ++ others) := by
    unfold Assoc.Apart Assoc.keys
    rw [List.map_append]
    exact List.pairwise_append.mpr ⟨he.apart, ho.apart, disjoint⟩
  obtain ⟨values, rfl, -, hv⟩ := he.exists_values
  obtain ⟨more, rfl, apart, hm⟩ := ho.exists_values
  have one : Assoc.update (Value.ofNames values) (Value.ofNames more) =
      Value.ofNames (values ++ more) := by
    rw [Assoc.update_of_apart together, Value.ofNames, Value.ofNames, Value.ofNames,
      List.map_append]
  have all : ∀ key ∈ Assoc.keys (values ++ more), isIdentifier key.toList = true := by
    rw [Assoc.keys, List.map_append]
    exact List.forall_mem_append.mpr ⟨hv, hm⟩
  refine ⟨_, _, _, condition_eq_ok_iff.mpr ⟨values, rfl, hv, rfl⟩,
    condition_eq_ok_iff.mpr ⟨more, rfl, hm, rfl⟩, condition_eq_ok_iff.mpr ⟨_, one, all, rfl⟩, ?_⟩
  exact ⟨text_ofValues_append .condition paramPrefix values more,
    parameters_ofValues_append .condition paramPrefix values apart⟩

end Clause

/-- **Joining is a homomorphism.** What comes of a list of fragments comes of its parts as well,
however the list is cut into parts that are joined first. It is empty only if all fragments are, and
if no fragment holds a comma, its commas stand between the fragments that are not. So the conditions
of two property maps without a common property, joined, are the condition of both maps in one. -/
theorem joinClauses_homomorphism :
    (∀ fragments others : List String, joinClauses (fragments ++ others) =
      joinClauses [joinClauses fragments, joinClauses others]) ∧
    (∀ groups : List (List String),
      joinClauses groups.flatten = joinClauses (groups.map joinClauses)) ∧
    (∀ fragments : List String,
      joinClauses fragments = "" ↔ ∀ fragment ∈ fragments, fragment = "") ∧
    (∀ fragments : List String, (∀ fragment ∈ fragments, ',' ∉ fragment.toList) →
      joinClauses fragments ≠ "" →
        pieces ',' (joinClauses fragments) = fragments.filter (· ≠ "")) ∧
    ∀ (paramPrefix : String) (entries others : Entries),
      Clause.IsAccepted entries → Clause.IsAccepted others →
      (∀ key ∈ Assoc.keys entries, ∀ other ∈ Assoc.keys others, (key == other) = false) →
      ∃ first second whole, Clause.condition paramPrefix entries = .ok first ∧
        Clause.condition paramPrefix others = .ok second ∧
        Clause.condition paramPrefix (Assoc.update entries others) = .ok whole ∧
        whole.IsJoin first second :=
  ⟨joinClauses_append, joinClauses_flatten, fun _ => joinClauses_eq_empty_iff,
    fun _ => pieces_joinClauses, fun _ _ _ => Clause.condition_update⟩

/-- Two fragments among empty ones, and two maps whose conditions have a prefix. -/
theorem joinClauses_homomorphism_sinceUntil :
    ((∀ fragment ∈ ["", "a:$a", "", "", "b:$b", ""], ',' ∉ fragment.toList) ∧
      joinClauses ["", "a:$a", "", "", "b:$b", ""] ≠ "" ∧
      pieces ',' (joinClauses ["", "a:$a", "", "", "b:$b", ""]) = ["a:$a", "b:$b"]) ∧
    Clause.IsAccepted [(.text "since", .int 2020)] ∧
      Clause.IsAccepted [(.text "until", .null), (.text "Role", .text "editor")] ∧
      ∃ first second whole, Clause.condition "r_" [(.text "since", .int 2020)] = .ok first ∧
        Clause.condition "r_" [(.text "until", .null), (.text "Role", .text "editor")] =
          .ok second ∧
        Clause.condition "r_" (Assoc.update [(.text "since", .int 2020)]
          [(.text "until", .null), (.text "Role", .text "editor")]) = .ok whole ∧
        whole.IsJoin first second := by
  obtain ⟨-, -, -, split, maps⟩ := joinClauses_homomorphism
  have plain : ∀ fragment ∈ ["", "a:$a", "", "", "b:$b", ""], ',' ∉ fragment.toList := by decide
  have left : joinClauses ["", "a:$a", "", "", "b:$b", ""] ≠ "" := by decide
  have since : Clause.IsAccepted [(.text "since", .int 2020)] := by
    refine ⟨List.pairwise_singleton _ _, ?_⟩
    simp only [Assoc.keys, List.map_cons, List.map_nil, List.forall_mem_cons]
    exact ⟨⟨⟨"since", by decide⟩, rfl⟩, List.forall_mem_nil _⟩
  have rest : Clause.IsAccepted [(.text "until", .null), (.text "Role", .text "editor")] := by
    refine ⟨by simp [Assoc.Apart, Assoc.keys, Value.beq_text], ?_⟩
    simp only [Assoc.keys, List.map_cons, List.map_nil, List.forall_mem_cons]
    exact ⟨⟨⟨"until", by decide⟩, rfl⟩, ⟨⟨"Role", by decide⟩, rfl⟩, List.forall_mem_nil _⟩
  refine ⟨⟨plain, left, split _ plain left⟩, since, rest, maps "r_" _ _ since rest ?_⟩
  simp [Assoc.keys, Value.beq_text]

end GraphMapper
