import GraphMapper.Text.Hex
import GraphMapper.Text.Printable

/-!
# Quoted text

Messages quote the texts they complain about. The **quotation mark** is the single one,
unless the text holds single marks and no double one. Inside, the backslash, the mark
itself and every character that does not print are spelled out.
-/

namespace GraphMapper.Text

/-- The single quotation mark. -/
def singleMark : Char := Char.ofNat 39

/-- The double quotation mark. -/
def doubleMark : Char := Char.ofNat 34

/-- The backslash. -/
def backslash : Char := Char.ofNat 92

/-- The mark a text is quoted with. -/
def quotationMark (cs : List Char) : Char :=
  if cs.contains singleMark && !cs.contains doubleMark then doubleMark else singleMark

/-- How a character is written between two marks. -/
def spelled (mark c : Char) : List Char :=
  if c = mark || c = backslash then [backslash, c]
  else if c.toNat = 10 then [backslash, 'n']
  else if c.toNat = 13 then [backslash, 'r']
  else if c.toNat = 9 then [backslash, 't']
  else if isPrintable c then [c]
  else if c.toNat < 0x100 then backslash :: 'x' :: hexDigits 2 c.toNat
  else if c.toNat < 0x10000 then backslash :: 'u' :: hexDigits 4 c.toNat
  else backslash :: 'U' :: hexDigits 8 c.toNat

/-- The quoted form of a text. -/
def quoted (s : String) : String :=
  let mark := quotationMark s.toList
  String.ofList (mark :: s.toList.flatMap (spelled mark) ++ [mark])

end GraphMapper.Text
