/-!
# Classes of characters

A class of characters is a table of **spans** of code points. A span may skip: the
capitals of many alphabets alternate with their small letters, and one span of step two
holds such a run of capitals.
-/

namespace GraphMapper.Text

/-- Every `step`-th code point from `first` to `last`, both included. -/
structure Span where
  /-- The first code point of the span. -/
  first : Nat
  /-- The greatest code point the span may reach. -/
  last : Nat
  /-- The distance between neighbours. -/
  step : Nat
  deriving DecidableEq, Repr

/-- Whether a code point lies on the span. -/
def Span.contains (s : Span) (n : Nat) : Bool :=
  s.first ≤ n && n ≤ s.last && (n - s.first) % s.step == 0

/-- A class of characters, as the spans that make it up. -/
abbrev CharClass := List Span

namespace CharClass

/-- Whether a character belongs to the class. -/
def contains (cls : CharClass) (c : Char) : Bool :=
  List.any cls fun s => s.contains c.toNat

/-- The class of the unbroken ranges listed. -/
def ofRanges (ranges : List (Nat × Nat)) : CharClass :=
  ranges.map fun r => ⟨r.1, r.2, 1⟩

/-- The class of the stepped spans listed. -/
def ofSpans (spans : List (Nat × Nat × Nat)) : CharClass :=
  spans.map fun s => ⟨s.1, s.2.1, s.2.2⟩

end CharClass

end GraphMapper.Text
