import GraphMapper.Proofs.Assoc
import GraphMapper.Proofs.Outcome
import GraphMapper.Proofs.Statement.Parts

/-!
# Rendering is substitution

A template is cut from its end, but it reads from its beginning: where a slot can begin, one does,
and it takes the longest name there is; everything else stays as it is. That reading is
`GraphMapper.Cuts`. It leaves no choice (`GraphMapper.Cuts.unique`), and cutting agrees with it
whatever the text is (`GraphMapper.cuts_iff`): with slots next to each other, at signs that stand
alone or in rows, and names that begin with the names of other slots.

Rendering is then substitution: `GraphMapper.Template.render_substitutes` says what comes out of
it, and what is reported if the names of the substitutions are not those of the slots. What is
substituted is put between the pieces and never looked at, so that neither the order of the
substitutions nor what they say makes a difference to where the others go.
-/

namespace GraphMapper

open Statement

/-! ### Leftmost and longest -/

/-- Whether a text goes on with a character of some kind. -/
def goesOn (kind : Char → Bool) (text : List Char) : Bool := text.head?.any kind

/-- A text read from its beginning, as characters that stay and slots: where a slot can begin, one
does, and no slot ends where the text goes on with its name. -/
inductive Cuts : List Char → List Segment → Prop where
  /-- Nothing is left. -/
  | done : Cuts [] []
  /-- A slot begins, and ends where the text does not go on with its name. -/
  | slot {name rest : List Char} {pieces : List Segment}
      (named : isName (String.ofList name) = true)
      (longest : goesOn isIdentifierChar rest = false) (next : Cuts rest pieces) :
      Cuts ('@' :: (name ++ rest)) (.slot name :: pieces)
  /-- No slot can begin here, so the character stays. -/
  | char {c : Char} {rest : List Char} {pieces : List Segment}
      (stays : c = '@' → goesOn isIdentifierHead rest = false) (next : Cuts rest pieces) :
      Cuts (c :: rest) (.char c :: pieces)

/-- A name begins as one. -/
theorem goesOn_of_isName {name : List Char} (h : isName (String.ofList name) = true)
    (rest : List Char) : goesOn isIdentifierHead (name ++ rest) = true := by
  unfold isName at h
  rw [String.toList_ofList] at h
  cases name with
  | nil => cases h
  | cons head tail => exact (Bool.and_eq_true _ _ ▸ h).1

theorem isIdentifierChar_of_mem_name {name : List Char} (h : isName (String.ofList name) = true) :
    ∀ c ∈ name, isIdentifierChar c = true :=
  fun _ hc => isIdentifierChar_of_mem h (String.toList_ofList.symm ▸ hc)

/-- What takes a whole name from a text gives that name back. -/
theorem takeWhile_of_longest {name rest : List Char} (h : isName (String.ofList name) = true)
    (longest : goesOn isIdentifierChar rest = false) :
    (name ++ rest).takeWhile isIdentifierChar = name := by
  refine takeWhile_append (isIdentifierChar_of_mem_name h) fun c hc => ?_
  rw [goesOn, Option.mem_def.mp hc] at longest
  exact longest

namespace Cuts

variable {text : List Char} {pieces others : List Segment}

/-- **There is one way to read a text.** -/
theorem unique (h : Cuts text pieces) (h' : Cuts text others) : pieces = others := by
  induction h generalizing others with
  | done => cases h'; rfl
  | @slot name rest _ named longest _ ih =>
    generalize whole : '@' :: (name ++ rest) = text at h'
    cases h' with
    | done => cases whole
    | @slot name' rest' _ named' longest' next' =>
      have same := (List.cons.inj whole).2
      -- Either name is as long as the text reads as one.
      obtain rfl : name = name' := by
        rw [← takeWhile_of_longest named longest, same, takeWhile_of_longest named' longest']
      obtain rfl := List.append_cancel_left same
      rw [ih next']
    | char stays' _ =>
      obtain ⟨rfl, rfl⟩ := List.cons.inj whole
      rw [goesOn_of_isName named] at stays'
      cases stays' rfl
  | @char c rest _ stays _ ih =>
    generalize whole : c :: rest = text at h'
    cases h' with
    | done => cases whole
    | slot named' _ _ =>
      obtain ⟨rfl, rfl⟩ := List.cons.inj whole
      rw [goesOn_of_isName named'] at stays
      cases stays rfl
    | char _ next' =>
      obtain ⟨rfl, rfl⟩ := List.cons.inj whole
      rw [ih next']

/-- Characters that go on with a name stay, if no sign is in front of them. -/
theorem chars {run : List Char} (h : ∀ c ∈ run, isIdentifierChar c = true)
    (next : Cuts text pieces) : Cuts (run ++ text) (run.map .char ++ pieces) := by
  induction run with
  | nil => exact next
  | cons c run ih =>
    obtain ⟨first, others⟩ := List.forall_mem_cons.mp h
    refine .char (fun sign => ?_) (ih others)
    rw [sign] at first
    exact absurd first (by decide)

end Cuts

/-- **What the cut of a text keeps**: the text is the run and what was cut of the rest, and the rest
does not go on with the run. -/
structure Cut.Keeps (cut : Cut) (text : List Char) : Prop where
  /-- The run goes on with a name. -/
  run : ∀ c ∈ cut.run, isIdentifierChar c = true
  /-- What stands behind the run is cut, and does not go on with it. -/
  rest : ∃ behind, text = cut.run ++ behind ∧ goesOn isIdentifierChar behind = false ∧
    Cuts behind cut.rest

theorem Cut.Keeps.cuts {cut : Cut} {text : List Char} (h : cut.Keeps text) :
    Cuts text cut.segments := by
  obtain ⟨behind, rfl, -, next⟩ := h.rest
  exact next.chars h.run

/-- One more character in front keeps it so. -/
theorem Cut.Keeps.cons {cut : Cut} {text : List Char} (h : cut.Keeps text) (c : Char) :
    (Cut.cons c cut).Keeps (c :: text) := by
  obtain ⟨behind, whole, ended, next⟩ := h.rest
  -- A character that is in no name ends the run, and what is behind it is cut for good.
  have apart {pieces : List Segment} (hc : isIdentifierChar c = false)
      (cuts : Cuts (c :: text) pieces) : Cut.Keeps ⟨[], pieces⟩ (c :: text) :=
    ⟨by simp, c :: text, rfl, hc, cuts⟩
  unfold Cut.cons
  split
  · next hc =>
    refine ⟨List.forall_mem_cons.mpr ⟨hc, h.run⟩, behind, ?_, ended, next⟩
    rw [whole, List.cons_append]
  · next hc =>
    have hc : isIdentifierChar c = false := by simpa using hc
    split
    · next head tail run =>
      split
      · next begins =>
        obtain ⟨sign, hh⟩ : c = '@' ∧ isIdentifierHead head = true := by simpa using begins
        refine apart hc ?_
        rw [sign, whole, run]
        refine .slot ?_ ended next
        have tailRun : ∀ d ∈ tail, isIdentifierChar d = true :=
          (List.forall_mem_cons.mp (run ▸ h.run)).2
        simpa [isName, hh] using tailRun
      · next begins =>
        refine apart hc (.char (fun sign => ?_) h.cuts)
        rw [whole, run]
        simpa [sign, goesOn] using begins
    · next run =>
      rw [run, List.nil_append] at whole
      refine apart hc (.char (fun _ => ?_) (whole ▸ next))
      -- What goes on with no name begins none either.
      rw [whole]
      cases behind with
      | nil => rfl
      | cons d behind =>
        by_contra begins
        have := isIdentifierChar_of_isIdentifierHead (c := d) (by simpa [goesOn] using begins)
        simp [goesOn, this] at ended

/-- **Cutting is reading**: the pieces of a text are those it reads as from its beginning. -/
theorem cuts_iff {text : List Char} {pieces : List Segment} :
    Cuts text pieces ↔ pieces = segments text := by
  have kept (text : List Char) : (Cut.ofChars text).Keeps text := by
    induction text with
    | nil => exact ⟨by simp [Cut.ofChars], [], rfl, rfl, .done⟩
    | cons c text ih => exact ih.cons c
  exact ⟨fun h => h.unique (kept text).cuts, fun h => h ▸ (kept text).cuts⟩

/-! ### Names in order -/

namespace Template

/-- Whether names are exactly those of which something holds, in increasing order. -/
structure Lists (names : List String) (P : String → Prop) : Prop where
  /-- They increase, so none comes twice. -/
  increasing : names.Pairwise (· < ·)
  /-- They are those. -/
  mem_iff : ∀ name, name ∈ names ↔ P name

theorem pairwise_insertSorted {name : String} {names : List String}
    (h : names.Pairwise (· < ·)) (new : name ∉ names) :
    (insertSorted name names).Pairwise (· < ·) := by
  induction names with
  | nil => exact List.pairwise_singleton _ _
  | cons other rest ih =>
    obtain ⟨least, others⟩ := List.pairwise_cons.mp h
    obtain ⟨differs, new⟩ := not_or.mp (List.mem_cons.not.mp new)
    unfold insertSorted
    split
    · next before =>
      refine List.pairwise_cons.mpr ⟨fun a ha => ?_, ih others new⟩
      rcases mem_insertSorted.mp ha with rfl | ha
      · exact before
      · exact least a ha
    · next notBefore =>
      have before : name < other := by
        by_contra notAfter
        exact differs (String.le_antisymm notBefore notAfter)
      refine List.pairwise_cons.mpr ⟨fun a ha => ?_, h⟩
      rcases List.mem_cons.mp ha with rfl | ha
      · exact before
      · exact String.lt_trans before (least a ha)

theorem pairwise_sorted {names : List String} (h : names.Nodup) :
    (sorted names).Pairwise (· < ·) := by
  induction names with
  | nil => exact .nil
  | cons name names ih =>
    obtain ⟨new, apart⟩ := List.nodup_cons.mp h
    exact pairwise_insertSorted (ih apart) (mem_sorted.not.mpr new)

/-- Names that are listed by what they have in common are the same. -/
theorem Lists.unique {names names' : List String} {P : String → Prop} (h : Lists names P)
    (h' : Lists names' P) : names = names' := by
  have nodup {names : List String} (h : names.Pairwise (· < ·)) : names.Nodup := by
    refine h.imp fun before same => ?_
    exact String.lt_irrefl _ (same ▸ before)
  have perm : names.Perm names' :=
    (List.perm_ext_iff_of_nodup (nodup h.increasing) (nodup h'.increasing)).mpr fun name =>
      (h.mem_iff name).trans (h'.mem_iff name).symm
  exact perm.eq_of_pairwise (fun _ _ _ _ before after => absurd after (String.lt_asymm before))
    h.increasing h'.increasing

/-- The placeholders of a template are the names of its slots. -/
theorem lists_placeholders (t : Template) :
    Lists t.placeholders fun name => .slot name.toList ∈ t.segments := by
  refine ⟨pairwise_sorted (Assoc.nodup_eraseDups _), fun name => ?_⟩
  rw [mem_placeholders, List.mem_filterMap]
  constructor
  · rintro ⟨piece, hp, named⟩
    cases piece with
    | char c => cases named
    | slot cs =>
      obtain rfl := Option.some.inj named
      rwa [String.toList_ofList]
  · intro h
    exact ⟨_, h, congrArg some String.ofList_toList⟩

/-! ### What is substituted -/

/-- What becomes of a piece: a character stays, a slot gives way to the text of what is substituted
for it. -/
inductive Fills (substitutions : List (String × Value)) : Segment → List Char → Prop where
  /-- A character stays. -/
  | char (c : Char) : Fills substitutions (.char c) [c]
  /-- A slot is filled. -/
  | slot {name : List Char} {v : Value} (h : (String.ofList name, v) ∈ substitutions) :
      Fills substitutions (.slot name) v.display.toList

/-- Whether the names of substitutions are exactly those of the slots. -/
def Suits (t : Template) (substitutions : List (String × Value)) : Prop :=
  ∀ name, name ∈ Assoc.keys substitutions ↔ name ∈ t.placeholders

variable {t : Template} {substitutions : List (String × Value)}

theorem Suits.fills (h : t.Suits substitutions) :
    List.Forall₂ (Fills substitutions) t.segments (t.segments.map (fill substitutions)) := by
  refine List.forall₂_map_right_iff.mpr (List.forall₂_same.mpr fun piece hp => ?_)
  cases piece with
  | char c => exact .char c
  | slot name =>
    have asked : String.ofList name ∈ t.placeholders :=
      (t.lists_placeholders.mem_iff _).mpr (String.toList_ofList.symm ▸ hp)
    obtain ⟨v, found⟩ := Assoc.exists_lookup_of_mem_keys ((h _).mpr asked)
    rw [fill, found]
    exact .slot (Assoc.mem_of_lookup found)

/-- What suits is rendered, piece by piece. -/
theorem Suits.render (h : t.Suits substitutions) (plain : "self" ∉ Assoc.keys substitutions) :
    ∃ texts, List.Forall₂ (Fills substitutions) t.segments texts ∧
      t.render substitutions = .ok (String.ofList texts.flatten) :=
  ⟨_, h.fills, by rw [← List.flatMap_def]; exact render_eq_ok plain h⟩

/-- The slots that nothing is substituted for. -/
def missing (t : Template) (substitutions : List (String × Value)) : List String :=
  t.placeholders.filter fun name => !(Assoc.keys substitutions).contains name

/-- The names of substitutions that are no slots. -/
def unknown (t : Template) (substitutions : List (String × Value)) : List String :=
  sorted ((Assoc.keys substitutions).filter fun name => !t.placeholders.contains name)

theorem lists_missing (t : Template) (substitutions : List (String × Value)) :
    Lists (t.missing substitutions) fun name =>
      name ∈ t.placeholders ∧ name ∉ Assoc.keys substitutions :=
  ⟨t.lists_placeholders.increasing.filter _, by simp [missing]⟩

theorem lists_unknown (t : Template) (apart : (Assoc.keys substitutions).Nodup) :
    Lists (t.unknown substitutions) fun name =>
      name ∈ Assoc.keys substitutions ∧ name ∉ t.placeholders :=
  ⟨pairwise_sorted (apart.filter _), by simp [unknown]⟩

/-- What does not suit is reported, with the names on either side that the other has not. -/
theorem render_eq_error (plain : "self" ∉ Assoc.keys substitutions)
    (h : ¬ t.Suits substitutions) :
    t.render substitutions =
      .error (.template t.name (t.missing substitutions) (t.unknown substitutions)) := by
  have differ : ¬ ((t.missing substitutions).isEmpty && (t.unknown substitutions).isEmpty) := by
    intro none
    obtain ⟨filled, known⟩ := Bool.and_eq_true _ _ ▸ none
    refine h fun name => ⟨fun supplied => ?_, fun asked => ?_⟩
    · have nowhere : name ∉ t.unknown substitutions := by
        rw [List.isEmpty_iff.mp known]
        exact List.not_mem_nil
      simpa [unknown, supplied] using nowhere
    · have nowhere : name ∉ t.missing substitutions := by
        rw [List.isEmpty_iff.mp filled]
        exact List.not_mem_nil
      simpa [missing, asked] using nowhere
  have allowed : ¬ (Assoc.keys substitutions).contains "self" = true :=
    fun h => plain (List.contains_iff_mem.mp h)
  exact (if_neg allowed).trans (if_neg differ)

/-- **Substitutions in another order give the same.** -/
theorem render_of_perm {others : List (String × Value)} (apart : (Assoc.keys substitutions).Nodup)
    (plain : "self" ∉ Assoc.keys substitutions) (perm : others.Perm substitutions) :
    t.render others = t.render substitutions := by
  have names (name : String) : name ∈ Assoc.keys others ↔ name ∈ Assoc.keys substitutions :=
    (perm.map Prod.fst).mem_iff
  have plain' : "self" ∉ Assoc.keys others := (names _).not.mpr plain
  by_cases suits : t.Suits substitutions
  · have suits' : t.Suits others := fun name => (names name).trans (suits name)
    have same : fill others = fill substitutions := by
      funext piece
      cases piece with
      | char c => rfl
      | slot name => rw [fill, fill, Assoc.lookup_of_perm apart perm.symm]
    rw [render_eq_ok plain suits, render_eq_ok plain' suits', same]
  · have unsuited : ¬ t.Suits others := fun h => suits fun name => (names name).symm.trans (h name)
    have apart' : (Assoc.keys others).Nodup := (perm.map Prod.fst).nodup_iff.mpr apart
    have missing : t.missing others = t.missing substitutions := by
      refine (t.lists_missing others).unique ?_
      simpa only [names] using t.lists_missing substitutions
    have unknown : t.unknown others = t.unknown substitutions := by
      refine (t.lists_unknown apart').unique ?_
      simpa only [names] using t.lists_unknown apart
    rw [render_eq_error plain suits, render_eq_error plain' unsuited, missing, unknown]

/-- Slots filled with themselves give back the template. -/
theorem render_self (plain : "self" ∉ t.placeholders) :
    t.render (t.placeholders.map fun name => (name, .text ("@" ++ name))) = .ok t.text := by
  have named : Assoc.keys (t.placeholders.map fun name => (name, Value.text ("@" ++ name))) =
      t.placeholders := by
    rw [Assoc.keys, List.map_map]
    exact List.map_id _
  have suits : t.Suits (t.placeholders.map fun name => (name, .text ("@" ++ name))) :=
    fun name => by rw [named]
  obtain ⟨texts, filled, rendered⟩ := suits.render (by rwa [named])
  have sources : texts = t.segments.map Segment.source := by
    refine (List.forall₂_eq_eq_eq ▸ List.forall₂_map_left_iff.mpr (filled.imp ?_)).symm
    rintro _ _ (_ | h)
    · rfl
    · obtain ⟨name, -, same⟩ := List.mem_map.mp h
      obtain ⟨rfl, rfl⟩ := Prod.mk.inj same
      simp [Segment.source]
  rw [rendered, sources, ← List.flatMap_def, segments, join_segments, String.ofList_toList]

/-- **Rendering is substitution.** A template reads as characters and slots in one way, and it
renders if exactly its slots are substituted: every slot gives way to the text of what is
substituted for it, and everything else stays. Other substitutions are reported, with the slots that
are missing and the names that are unknown, each in order. In which order the substitutions come
makes no difference; and what fills every slot with itself gives back the template. -/
theorem render_substitutes (t : Template) {substitutions : List (String × Value)}
    (apart : (Assoc.keys substitutions).Nodup) (plain : "self" ∉ Assoc.keys substitutions) :
    ∃ pieces, (∀ others, Cuts t.text.toList others ↔ others = pieces) ∧
      pieces.flatMap Segment.source = t.text.toList ∧
      Lists t.placeholders (fun name => .slot name.toList ∈ pieces) ∧
      (t.Suits substitutions → ∃ texts, List.Forall₂ (Fills substitutions) pieces texts ∧
        t.render substitutions = .ok (String.ofList texts.flatten)) ∧
      (¬ t.Suits substitutions → ∃ missing unknown,
        Lists missing (fun name => name ∈ t.placeholders ∧ name ∉ Assoc.keys substitutions) ∧
        Lists unknown (fun name => name ∈ Assoc.keys substitutions ∧ name ∉ t.placeholders) ∧
        t.render substitutions = .error (.template t.name missing unknown)) ∧
      (∀ others, others.Perm substitutions → t.render others = t.render substitutions) ∧
      ("self" ∉ t.placeholders →
        t.render (t.placeholders.map fun name => (name, .text ("@" ++ name))) = .ok t.text) := by
  refine ⟨t.segments, fun _ => cuts_iff, join_segments _, t.lists_placeholders, fun suits => ?_,
    fun unsuited => ?_, fun _ perm => render_of_perm apart plain perm, render_self⟩
  · exact suits.render plain
  · exact ⟨_, _, t.lists_missing substitutions, t.lists_unknown apart,
      render_eq_error plain unsuited⟩

end Template

/-! ### Slots side by side -/

namespace Example

/-- A template with slots next to each other, one of whose names begins another, and with signs at
which none begins. -/
def sideBySide : Template := ⟨"SIDE_BY_SIDE", "@a@ab @1@@b."⟩

/-- Substitutions that look like slots. -/
def likeSlots : List (String × Value) :=
  [("ab", .text "@a"), ("b", .bool true), ("a", .text "b@b")]

end Example

namespace Template

/-- What looks like slots is put in as it is. -/
theorem render_substitutes_sideBySide :
    (Assoc.keys Example.likeSlots).Nodup ∧ "self" ∉ Assoc.keys Example.likeSlots ∧
      Example.sideBySide.Suits Example.likeSlots ∧
      ∃ pieces texts, Cuts Example.sideBySide.text.toList pieces ∧
        List.Forall₂ (Fills Example.likeSlots) pieces texts ∧
        Example.sideBySide.render Example.likeSlots = .ok (String.ofList texts.flatten) := by
  have apart : (Assoc.keys Example.likeSlots).Nodup := by decide
  have plain : "self" ∉ Assoc.keys Example.likeSlots := by decide
  have suits : Example.sideBySide.Suits Example.likeSlots := by
    have slots : Example.sideBySide.placeholders = ["a", "ab", "b"] := by decide
    intro name
    rw [slots]
    simp [Example.likeSlots, or_comm, or_left_comm]
  obtain ⟨pieces, reads, -, -, rendered, -⟩ :=
    render_substitutes Example.sideBySide apart plain
  obtain ⟨texts, filled, result⟩ := rendered suits
  exact ⟨apart, plain, suits, pieces, texts, (reads pieces).mpr rfl, filled, result⟩

example : Example.sideBySide.render Example.likeSlots = .ok "b@b@a @1@True." := rfl

end Template

end GraphMapper
