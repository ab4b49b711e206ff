import GraphMapper.Identifier

/-!
# Statement templates

A template is a statement with **slots**: an at sign followed by a name. Structural parts
of a statement – labels, clauses, arrows – are substituted for the slots; values never are,
they travel as parameters.

The text is cut into single characters and slots, once and for all: `segments` takes every
slot as far left and as long as it reaches. Rendering replaces the slots and keeps the
characters, so a substituted text is never searched for slots again. `join_segments` says
that the cut loses nothing.
-/

namespace GraphMapper

/-- A piece of a template: a character that stays, or a slot to be filled. -/
inductive Segment where
  /-- A character of the text. -/
  | char (c : Char)
  /-- A slot of this name. -/
  | slot (name : List Char)
  deriving DecidableEq, Repr

namespace Segment

/-- The text a segment was cut from. -/
def source : Segment → List Char
  | char c => [c]
  | slot name => '@' :: name

/-- The name of a slot. -/
def name? : Segment → Option String
  | char _ => none
  | slot name => some (String.ofList name)

end Segment

/-- The cut of a text read from its end: the run of name characters it starts with, and
the segments of what follows that run. -/
structure Cut where
  /-- The name characters at the start. -/
  run : List Char
  /-- What follows them. -/
  rest : List Segment

namespace Cut

/-- All segments of a cut, its run counting as plain characters. -/
def segments (c : Cut) : List Segment := c.run.map .char ++ c.rest

/-- The cut with one more character in front. An at sign turns a run that can be a name
into a slot. -/
def cons (c : Char) (cut : Cut) : Cut :=
  if isIdentifierChar c then ⟨c :: cut.run, cut.rest⟩
  else match cut.run with
    | head :: tail =>
      if c = '@' && isIdentifierHead head then ⟨[], .slot (head :: tail) :: cut.rest⟩
      else ⟨[], .char c :: cut.segments⟩
    | [] => ⟨[], .char c :: cut.rest⟩

/-- The cut of a text. -/
def ofChars : List Char → Cut
  | [] => ⟨[], []⟩
  | c :: rest => cons c (ofChars rest)

end Cut

/-- The segments of a text. -/
def segments (text : List Char) : List Segment := (Cut.ofChars text).segments

/-- A named statement with slots. -/
structure Template where
  /-- The name by which the template is reported. -/
  name : String
  /-- The statement. -/
  text : String
  deriving DecidableEq, Repr

namespace Template

/-- A text put in its place among texts in increasing order of their code points. -/
def insertSorted (name : String) : List String → List String
  | [] => [name]
  | other :: rest =>
    if other < name then other :: insertSorted name rest else name :: other :: rest

/-- Texts in increasing order of their code points. -/
def sorted (names : List String) : List String := names.foldr insertSorted []

/-- The pieces of the template. -/
def segments (t : Template) : List Segment := GraphMapper.segments t.text.toList

/-- The names of its slots, each once, in increasing order. -/
def placeholders (t : Template) : List String :=
  sorted (t.segments.filterMap Segment.name?).eraseDups

/-- The text of one piece when slots are filled from `substitutions`. -/
def fill (substitutions : List (String × Value)) : Segment → List Char
  | .char c => [c]
  | .slot name => match substitutions.lookup (String.ofList name) with
    | some v => v.display.toList
    | none => []

/-- The statement with every slot filled. Every slot needs a substitution, and every
substitution a slot; a substitution cannot be named `self`. -/
def render (t : Template) (substitutions : List (String × Value)) : Except Failure String :=
  let supplied := substitutions.map Prod.fst
  let missing := t.placeholders.filter fun n => !supplied.contains n
  let unknown := sorted (supplied.filter fun n => !t.placeholders.contains n)
  if supplied.contains "self" then .error (.misuse .wrongKind)
  else if missing.isEmpty && unknown.isEmpty then
    .ok (String.ofList (t.segments.flatMap (fill substitutions)))
  else .error (.template t.name missing unknown)

/-- A short description of the template. -/
def summary (t : Template) : String :=
  "QueryTemplate(name='" ++ t.name ++ "', placeholders=" ++ Value.writtenTexts t.placeholders
    ++ ")"

end Template

/-! ### The cut loses nothing -/

theorem Cut.join_cons (c : Char) (cut : Cut) :
    (Cut.cons c cut).segments.flatMap Segment.source =
      c :: cut.segments.flatMap Segment.source := by
  have plain : ∀ cs : List Char, (cs.map Segment.char).flatMap Segment.source = cs := by
    intro cs
    induction cs with
    | nil => rfl
    | cons c cs ih => simp [Segment.source, ih]
  unfold Cut.cons
  split
  · simp [Cut.segments, Segment.source]
  · split
    · next head tail h =>
      split
      · next h' =>
        have : c = '@' := by simp_all
        simp [Cut.segments, h, Segment.source, plain, this]
      · simp [Cut.segments, Segment.source]
    · next h => simp [Cut.segments, h, Segment.source]

/-- The pieces of a text, put together again, are the text. -/
theorem join_segments (text : List Char) :
    (segments text).flatMap Segment.source = text := by
  unfold segments
  induction text with
  | nil => rfl
  | cons c rest ih => rw [Cut.ofChars, Cut.join_cons, ih]

end GraphMapper
