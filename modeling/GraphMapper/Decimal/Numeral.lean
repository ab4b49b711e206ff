import GraphMapper.Text.Blank

/-!
# Reading numerals

The lax reading of a number from a text. Both kinds of numeral may stand between white
space and may carry a sign and underscores between digits. A whole numeral may have zeros
in front and a fraction of zeros; a float may have a fraction, an exponent, or be the name
of an infinity or of a not-a-number.

The zeros in front of a whole numeral are left out before its sign is looked at, so that
`0-2` is minus two. What remains writes an integer only if it has no zeros in front any
more, and if it is not too long.
-/

namespace GraphMapper.Decimal

/-- The natural number a row of digits writes. -/
def readDigits? : List Char → Option Nat
  | [] => none
  | cs => cs.foldlM (fun n c => if c.isDigit then some (10 * n + (c.toNat - 48)) else none) 0

/-- The characters without the underscores, if every underscore stands between two other
characters that are none. -/
def withoutUnderscores? (cs : List Char) : Option (List Char) :=
  if cs.head? = some '_' || cs.getLast? = some '_' then none
  else if (cs.zip cs.tail).any fun p => p.1 = '_' && p.2 = '_' then none
  else some (cs.filter (· ≠ '_'))

/-- The sign in front of a numeral, and the rest. -/
def splitSign : List Char → Bool × List Char
  | '-' :: cs => (true, cs)
  | '+' :: cs => (false, cs)
  | cs => (false, cs)

/-! ### Whole numerals -/

/-- What is made of a text where an integer is wanted. -/
inductive IntegerReading where
  /-- It writes this integer. -/
  | integer (i : Int)
  /-- It has too many digits to be read. -/
  | tooLong
  /-- It writes no integer. -/
  | unreadable
  deriving DecidableEq, Repr

/-- What follows the zeros in front, `last` being the character just passed. -/
def afterZeros (last : Char) : List Char → Option (List Char)
  | [] => some [last]
  | c :: cs =>
    if c = '0' || c = '_' then afterZeros c cs
    else if c.isDigit || c = '-' then some (c :: cs)
    else if c = '.' then some (last :: c :: cs)
    else none

/-- The numeral without zeros in front; it has to start with a digit or a minus sign. -/
def stripZeros? : List Char → Option (List Char)
  | [] => none
  | c :: cs =>
    if c = '0' then afterZeros c cs
    else if c.isDigit || c = '-' then some (c :: cs)
    else none

/-- The numeral without a plus sign in front; no minus sign may follow it. -/
def stripPlus? : List Char → Option (List Char)
  | '+' :: '-' :: _ => none
  | '+' :: cs => some cs
  | cs => some cs

/-- The numeral without a fraction that consists of zeros, at least one of them. -/
def stripFraction (cs : List Char) : List Char :=
  let whole := cs.takeWhile (· ≠ '.')
  match cs.drop (whole.length + 1) with
  | [] => cs
  | fraction => if fraction.all (· = '0') then whole else cs

/-- How many characters a numeral may have to be read. -/
def longestNumeral : Nat := 4300

/-- The integer that a sign and digits write, without any zeros in front. The length of the
digits is looked at before what comes after them. -/
def readCanonical (cs : List Char) : IntegerReading :=
  let (negative, body) := match cs with
    | '-' :: body => (true, body)
    | body => (false, body)
  let digits := body.takeWhile Char.isDigit
  if digits.head? = some '0' then
    if body = ['0'] then .integer 0 else .unreadable
  else if longestNumeral < cs.length - body.length + digits.length then .tooLong
  else match readDigits? body with
    | some n => .integer (if negative then -n else n)
    | none => .unreadable

/-- The integer a numeral writes. -/
def readInt (s : String) : IntegerReading :=
  match (stripPlus? (Text.trimmed s)).bind stripZeros? with
  | none => .unreadable
  | some cs =>
    let cs := stripFraction cs
    readCanonical ((withoutUnderscores? cs).getD cs)

/-! ### Floats -/

/-- The digits in front, and the rest. -/
def spanDigits (cs : List Char) : List Char × List Char :=
  (cs.takeWhile Char.isDigit, cs.dropWhile Char.isDigit)

/-- The exponent written after a mantissa; none written is zero. -/
def readExponent? : List Char → Option Int
  | [] => some 0
  | c :: cs =>
    if c = 'e' || c = 'E' then
      let (negative, body) := splitSign cs
      (readDigits? body).map fun n => if negative then -n else n
    else none

/-- The float nearest to `digits · 10 ^ exponent`. An exponent beyond every float is cut
short of the arithmetic. -/
def nearestFloat (digits : Nat) (exponent : Int) : Float :=
  let magnitude := exponent + (Nat.toDigits 10 digits).length
  if digits = 0 || magnitude < -400 then 0
  else if 400 < magnitude then Float.ofScientific 1 false 400
  else Float.ofScientific digits (exponent < 0) exponent.natAbs

/-- The float that digits with an optional point and exponent write. -/
def readMagnitude? (cs : List Char) : Option Float :=
  let (whole, rest) := spanDigits cs
  let (fraction, rest) := match rest with
    | '.' :: rest => spanDigits rest
    | rest => ([], rest)
  match readDigits? (whole ++ fraction), readExponent? rest with
  | some digits, some exponent => some (nearestFloat digits (exponent - fraction.length))
  | _, _ => none

/-- The float a numeral without white space writes. -/
def readPlainFloat? (cs : List Char) : Option Float :=
  let (negative, body) := splitSign cs
  let name := String.ofList (body.map Char.toLower)
  let magnitude :=
    if name = "inf" || name = "infinity" then some (Float.ofScientific 1 false 400)
    else if name = "nan" then some (0.0 / 0.0)
    else readMagnitude? body
  magnitude.map fun x => if negative then -x else x

/-- The float a numeral writes. White space around it and underscores inside it are both
allowed, but not together. -/
def readFloat? (s : String) : Option Float :=
  match readPlainFloat? (Text.trimmed s) with
  | some x => some x
  | none => (withoutUnderscores? s.toList).bind readPlainFloat?

end GraphMapper.Decimal
