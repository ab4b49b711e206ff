import GraphMapper.Template
import GraphMapper.Proofs.Statement.Reading

/-!
# Templates in parts

A template is cut character by character, but it is written as a handful of **parts**: some
text, a slot, some more text. This file reads templates the way they are written. Parts are
**separate** if the cut finds them again: no text has an at sign in it, and nothing that follows
a slot goes on with its name. Of a template in separate parts,
`GraphMapper.Template.render_of_parts` says that rendering writes the parts one after the other,
each slot replaced by what is substituted for it.
-/

namespace GraphMapper

open Statement

/-- A part of a template: text that stays, or a slot to be filled. -/
inductive Part where
  /-- Text that stays. -/
  | text (s : String)
  /-- A slot of this name. -/
  | slot (name : String)

namespace Part

/-- What is written for a part. -/
def source : Part → String
  | text s => s
  | slot name => "@" ++ name

/-- The pieces that a part is cut into. -/
def segments : Part → List Segment
  | text s => s.toList.map .char
  | slot name => [.slot name.toList]

/-- The name of a slot. -/
def name? : Part → Option String
  | text _ => none
  | slot name => some name

/-- A part after its slot is filled from `substitutions`. -/
def filled (substitutions : List (String × Value)) : Part → String
  | text s => s
  | slot name => ((substitutions.lookup name).map Value.display).getD ""

/-- What is made of each part, one after the other. -/
def join (f : Part → String) (parts : List Part) : String := parts.foldr (fun p s => f p ++ s) ""

/-- Whether a name in front of the parts would end there. -/
def endName : List Part → Bool
  | [] => true
  | text s :: _ => s.toList.head?.any (!isIdentifierChar ·)
  | slot _ :: _ => true

/-- Whether parts are found again when they are written one after the other. -/
def separate : List Part → Bool
  | [] => true
  | text s :: rest => s.toList.all (· != '@') && separate rest
  | slot name :: rest => isName name && endName rest && separate rest

@[simp] theorem join_nil (f : Part → String) : join f [] = "" := rfl

@[simp] theorem join_cons (f : Part → String) (p : Part) (parts : List Part) :
    join f (p :: parts) = f p ++ join f parts := rfl

theorem toList_join (f : Part → String) (parts : List Part) :
    (join f parts).toList = parts.flatMap fun p => (f p).toList := by
  induction parts with
  | nil => rfl
  | cons p rest ih => rw [join_cons, String.toList_append, ih, List.flatMap_cons]

theorem toList_source_slot (name : String) : (slot name).source.toList = '@' :: name.toList := by
  rw [source, String.toList_append]
  rfl

theorem head?_source_of_endName {parts : List Part} (h : endName parts = true) :
    (join source parts).toList.head?.all (!isIdentifierChar ·) = true := by
  match parts with
  | [] => rfl
  | text s :: rest =>
    obtain ⟨c, hc, hs⟩ := (Option.any_eq_true _ _).mp h
    rw [join_cons, String.toList_append, source, List.head?_append, hc]
    exact hs
  | slot name :: rest =>
    rw [join_cons, String.toList_append, toList_source_slot]
    rfl

/-- A part is cut into one slot at most. -/
theorem filterMap_segments (p : Part) : p.segments.filterMap Segment.name? = p.name?.toList := by
  cases p with
  | text s =>
    rw [segments, List.filterMap_map]
    exact List.filterMap_eq_nil_iff.mpr fun _ _ => rfl
  | slot name =>
    simp [segments, name?, Segment.name?]

/-- Filling the pieces of a part fills the part. -/
theorem flatMap_segments (substitutions : List (String × Value)) (p : Part) :
    p.segments.flatMap (Template.fill substitutions) = (p.filled substitutions).toList := by
  cases p with
  | text s =>
    rw [segments, List.flatMap_map]
    exact List.flatMap_singleton' _
  | slot name =>
    rw [segments, List.flatMap_singleton, Template.fill, String.ofList_toList, filled]
    cases substitutions.lookup name <;> rfl

end Part

/-! ### Cutting what is written in parts -/

/-- A character that is no at sign stays what it is, whatever it is put in front of. -/
theorem Cut.segments_cons_of_ne {c : Char} (hc : c ≠ '@') (cut : Cut) :
    (Cut.cons c cut).segments = .char c :: cut.segments := by
  unfold Cut.cons
  split
  · rfl
  · split
    · next head tail hr =>
      rw [if_neg (by simp [hc])]
      rfl
    · next hr =>
      simp [segments, hr]

theorem segments_append_of_notMem {xs : List Char} (h : '@' ∉ xs) (ys : List Char) :
    segments (xs ++ ys) = xs.map .char ++ segments ys := by
  induction xs with
  | nil => rfl
  | cons c xs ih =>
    -- Characters are put in front one by one, so what is behind is cut already.
    have hc : c ≠ '@' := fun hc => h (hc ▸ List.mem_cons_self)
    have rest : segments (xs ++ ys) = xs.map .char ++ segments ys :=
      ih fun hm => h (List.mem_cons_of_mem _ hm)
    calc segments (c :: xs ++ ys)
        = .char c :: segments (xs ++ ys) := Cut.segments_cons_of_ne hc _
      _ = (c :: xs).map .char ++ segments ys := by rw [rest, List.map_cons, List.cons_append]

/-- A text that does not go on with a name starts no run. -/
theorem Cut.run_ofChars_eq_nil {xs : List Char}
    (h : xs.head?.all (!isIdentifierChar ·) = true) : (ofChars xs).run = [] := by
  cases xs with
  | nil => rfl
  | cons c rest =>
    have hc : isIdentifierChar c = false := by simpa using h
    rw [ofChars, cons, if_neg (by simp [hc])]
    split
    · split <;> rfl
    · rfl

/-- The characters of a name join the run of what follows them. -/
theorem Cut.ofChars_append_of_all {xs : List Char} (h : ∀ c ∈ xs, isIdentifierChar c = true)
    (ys : List Char) : ofChars (xs ++ ys) = ⟨xs ++ (ofChars ys).run, (ofChars ys).rest⟩ := by
  induction xs with
  | nil => rfl
  | cons c xs ih =>
    rw [List.cons_append, ofChars, ih fun d hd => h d (List.mem_cons_of_mem _ hd), cons,
      if_pos (h c List.mem_cons_self), List.cons_append]

/-- **An at sign takes the whole name behind it**, up to where the text does not go on with
it. -/
theorem segments_slot {name : String} (hn : isName name = true) {ys : List Char}
    (hy : ys.head?.all (!isIdentifierChar ·) = true) :
    segments ('@' :: (name.toList ++ ys)) = .slot name.toList :: segments ys := by
  have stops := Cut.run_ofChars_eq_nil hy
  have whole := Cut.ofChars_append_of_all (fun _ => isIdentifierChar_of_mem hn) ys
  obtain ⟨head, tail, hname, hhead⟩ : ∃ head tail, name.toList = head :: tail ∧
      isIdentifierHead head = true := by
    unfold isName at hn
    split at hn
    · cases hn
    · next head tail hname => exact ⟨head, tail, hname, (Bool.and_eq_true _ _ ▸ hn).1⟩
  have sign : isIdentifierChar '@' = false := by decide
  rw [segments, Cut.ofChars, whole, stops, List.append_nil, hname, Cut.cons,
    if_neg (by simp [sign])]
  simp [hhead, segments, Cut.segments, stops]

/-- **Separate parts are found again** by cutting what they are written as. -/
theorem segments_of_separate {parts : List Part} (h : Part.separate parts = true) :
    segments (Part.join Part.source parts).toList = parts.flatMap Part.segments := by
  induction parts with
  | nil => rfl
  | cons p rest ih =>
    cases p with
    | text s =>
      obtain ⟨hs, hrest⟩ := Bool.and_eq_true _ _ ▸ h
      have plain : '@' ∉ s.toList := fun hm => by simpa using List.all_eq_true.mp hs '@' hm
      rw [Part.join_cons, String.toList_append, Part.source, segments_append_of_notMem plain,
        ih hrest]
      rfl
    | slot name =>
      obtain ⟨hslot, hrest⟩ := Bool.and_eq_true _ _ ▸ h
      obtain ⟨hn, hnext⟩ := Bool.and_eq_true _ _ ▸ hslot
      rw [Part.join_cons, String.toList_append, Part.toList_source_slot, List.cons_append,
        segments_slot hn (Part.head?_source_of_endName hnext), ih hrest]
      rfl

/-! ### Rendering what is written in parts -/

namespace Template

theorem mem_insertSorted {name other : String} {names : List String} :
    other ∈ insertSorted name names ↔ other = name ∨ other ∈ names := by
  induction names with
  | nil => simp [insertSorted]
  | cons first rest ih =>
    unfold insertSorted
    split
    · rw [List.mem_cons, ih, List.mem_cons]
      exact or_left_comm
    · exact List.mem_cons

@[simp] theorem mem_sorted {name : String} {names : List String} :
    name ∈ sorted names ↔ name ∈ names := by
  induction names with
  | nil => rfl
  | cons first rest ih =>
    rw [sorted, List.foldr_cons, mem_insertSorted, ← sorted, ih, List.mem_cons]

/-- The slots of a template are its placeholders, each of them once. -/
theorem mem_placeholders {t : Template} {name : String} :
    name ∈ t.placeholders ↔ name ∈ t.segments.filterMap Segment.name? := by
  rw [placeholders, mem_sorted, List.mem_eraseDups]

/-- A template renders if exactly its slots are given. -/
theorem render_eq_ok {t : Template} {substitutions : List (String × Value)}
    (hself : "self" ∉ substitutions.map Prod.fst)
    (hs : ∀ name, name ∈ substitutions.map Prod.fst ↔ name ∈ t.placeholders) :
    t.render substitutions =
      .ok (String.ofList (t.segments.flatMap (fill substitutions))) := by
  have missing : (t.placeholders.filter fun n => !(substitutions.map Prod.fst).contains n) = [] :=
    List.filter_eq_nil_iff.mpr fun n hn => by simpa using (hs n).mpr hn
  have unknown : ((substitutions.map Prod.fst).filter fun n => !t.placeholders.contains n) = [] :=
    List.filter_eq_nil_iff.mpr fun n hn => by simpa using (hs n).mp hn
  unfold render
  rw [if_neg (by simpa using hself), missing, unknown]
  rfl

/-- Whether a template is written in these parts. None of its slots is the one name that cannot
be substituted. -/
def isWritten (t : Template) (parts : List Part) : Bool :=
  t.text = Part.join Part.source parts && Part.separate parts &&
    !(parts.filterMap Part.name?).contains "self"

/-- **A template renders to the parts it is written in**, each slot filled: given that exactly
the slots are substituted, in any order. -/
theorem render_of_parts {t : Template} {substitutions : List (String × Value)}
    (parts : List Part) (h : t.isWritten parts = true)
    (given : (substitutions.map Prod.fst).Perm (parts.filterMap Part.name?)) :
    t.render substitutions = .ok (Part.join (Part.filled substitutions) parts) := by
  obtain ⟨⟨written, separate⟩, plain⟩ : (t.text = Part.join Part.source parts ∧
      Part.separate parts = true) ∧ "self" ∉ parts.filterMap Part.name? := by
    simpa [isWritten] using h
  have cut : t.segments = parts.flatMap Part.segments := by
    rw [segments, written, segments_of_separate separate]
  have names : (parts.flatMap Part.segments).filterMap Segment.name? =
      parts.filterMap Part.name? := by
    rw [List.filterMap_flatMap, List.filterMap_eq_flatMap_toList]
    exact congrArg parts.flatMap (funext Part.filterMap_segments)
  -- The placeholders are the slots in another order, so only membership can be compared.
  have slots (name : String) : name ∈ substitutions.map Prod.fst ↔ name ∈ t.placeholders := by
    rw [mem_placeholders, cut, names]
    exact given.mem_iff
  have texts : (parts.flatMap Part.segments).flatMap (fill substitutions) =
      (Part.join (Part.filled substitutions) parts).toList := by
    rw [List.flatMap_assoc, Part.toList_join]
    exact congrArg parts.flatMap (funext (Part.flatMap_segments substitutions))
  rw [render_eq_ok (fun h => plain (given.mem_iff.mp h)) slots, cut, texts, String.ofList_toList]

end Template

end GraphMapper
