import GraphMapper.Text.CharClass

/-!
# Blank text

Names, labels, identifiers and credentials are refused when they are **blank**: when
every character is white space or one of the four information separators. White space
is the Unicode property, so the ideographic space counts and the zero width space does
not. Numerals tolerate surrounding white space in the narrower sense, without the
separators.
-/

namespace GraphMapper.Text

/-- The white space of Unicode. -/
def whiteSpace : CharClass := CharClass.ofRanges
  [(0x09, 0x0D), (0x20, 0x20), (0x85, 0x85), (0xA0, 0xA0), (0x1680, 0x1680),
   (0x2000, 0x200A), (0x2028, 0x2029), (0x202F, 0x202F), (0x205F, 0x205F), (0x3000, 0x3000)]

/-- The file, group, record and unit separators. -/
def separators : CharClass := CharClass.ofRanges [(0x1C, 0x1F)]

/-- Whether a character counts as blank. -/
def isBlankChar (c : Char) : Bool :=
  whiteSpace.contains c || separators.contains c

/-- Whether a text holds nothing but blanks; the empty text does. -/
def isBlank (s : String) : Bool :=
  s.toList.all isBlankChar

/-- The characters of a text without the white space at its two ends. -/
def trimmed (s : String) : List Char :=
  ((s.toList.dropWhile whiteSpace.contains).reverse.dropWhile whiteSpace.contains).reverse

@[simp] theorem isBlank_empty : isBlank "" = true := rfl

/-- The white space of ASCII is blank. -/
theorem isBlankChar_of_isWhitespace {c : Char} (h : c.isWhitespace = true) :
    isBlankChar c = true := by
  simp only [Char.isWhitespace, Bool.or_eq_true, decide_eq_true_eq] at h
  rcases h with ((rfl | rfl) | rfl) | rfl <;> decide

end GraphMapper.Text
