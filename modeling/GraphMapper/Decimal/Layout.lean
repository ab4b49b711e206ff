import GraphMapper.Decimal.Shortest

/-!
# Laying out a float

The shortest decimal of a float is written in one of two ways: **positionally**, with a
point among the digits, or with an **exponent** of ten after them. A layout says where one
gives way to the other.
-/

namespace GraphMapper.Decimal

/-- How floats are written. -/
structure Layout where
  /-- The least power of ten of a first digit that is written positionally. -/
  least : Int
  /-- The first power of ten of a first digit that is no longer written positionally. -/
  bound : Int
  /-- The least number of digits of an exponent. -/
  exponentWidth : Nat
  deriving DecidableEq, Repr

namespace Layout

/-- The digits of a natural number. -/
def digitsOf (n : Nat) : List Char := Nat.toDigits 10 n

/-- A row of zeros. -/
def zeros (n : Nat) : List Char := List.replicate n '0'

/-- Digits and a point, for a decimal whose first digit stands for `10 ^ magnitude`. -/
def positional (digits : List Char) (magnitude : Int) : List Char :=
  if magnitude < 0 then '0' :: '.' :: zeros (-magnitude - 1).toNat ++ digits
  else
    let whole := magnitude.toNat + 1
    if digits.length ≤ whole then digits ++ zeros (whole - digits.length) ++ ['.', '0']
    else digits.take whole ++ '.' :: digits.drop whole

/-- Digits and an exponent, for a decimal whose first digit stands for `10 ^ magnitude`. -/
def exponential (l : Layout) (digits : List Char) (magnitude : Int) : List Char :=
  let point := match digits with
    | [] => []
    | [d] => [d]
    | d :: rest => d :: '.' :: rest
  let exponent := digitsOf magnitude.natAbs
  point ++ 'e' :: (if magnitude < 0 then '-' else '+') ::
    zeros (l.exponentWidth - exponent.length) ++ exponent

/-- The text of a float. -/
def write (l : Layout) (x : Float) : String :=
  match Dyadic.ofFloat? x with
  | none => if x == x then (if x < 0 then "-inf" else "inf") else "nan"
  | some d =>
    let s := d.shortest
    let digits := digitsOf s.digits
    let magnitude := s.exponent + digits.length - 1
    let body := if l.least ≤ magnitude && magnitude < l.bound then positional digits magnitude
      else l.exponential digits magnitude
    String.ofList (if d.negative then '-' :: body else body)

end Layout

end GraphMapper.Decimal
