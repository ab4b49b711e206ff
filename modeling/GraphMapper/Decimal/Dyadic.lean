/-!
# Floating numbers as dyadic fractions

A finite double-precision number is a whole number times a power of two. Everything the
library decides about such a number – its shortest decimal text, whether it is whole, how
it compares with an integer – is decided on that exact form, in natural-number arithmetic.
-/

namespace GraphMapper.Decimal

/-- The number `significand · 2 ^ exponent`, negated if `negative`. -/
structure Dyadic where
  /-- Whether the number carries a minus sign; zero may. -/
  negative : Bool
  /-- The whole factor. -/
  significand : Nat
  /-- The power of two. -/
  exponent : Int
  deriving DecidableEq, Repr

namespace Dyadic

/-- The exact value of a finite float; `none` for an infinity or a not-a-number. -/
def ofFloat? (x : Float) : Option Dyadic :=
  let bits := x.toBits.toNat
  let negative := bits / Nat.pow 2 63 == 1
  let biased : Nat := bits / Nat.pow 2 52 % Nat.pow 2 11
  let fraction : Nat := bits % Nat.pow 2 52
  if biased = 2047 then none
  else if biased = 0 then some ⟨negative, fraction, -1074⟩
  else some ⟨negative, Nat.pow 2 52 + fraction, (biased : Int) - 1075⟩

/-- The number as an integer, when it is whole. -/
def toInt? (d : Dyadic) : Option Int :=
  let signed (n : Nat) : Int := if d.negative then -n else n
  match d.exponent with
  | .ofNat e => some (signed (d.significand * Nat.pow 2 e))
  | .negSucc e =>
    let scale := Nat.pow 2 (e + 1)
    if d.significand % scale = 0 then some (signed (d.significand / scale)) else none

/-- How an integer stands to the number. -/
def compareInt (i : Int) (d : Dyadic) : Ordering :=
  let signed : Int := if d.negative then -d.significand else d.significand
  compare (i * Nat.pow 2 (-d.exponent).toNat) (signed * Nat.pow 2 d.exponent.toNat)

end Dyadic

/-- The integer a float is equal to, if there is one. -/
def wholeFloat? (x : Float) : Option Int :=
  (Dyadic.ofFloat? x).bind Dyadic.toInt?

/-- Whether a float is neither infinite nor a not-a-number. -/
def isFiniteFloat (x : Float) : Bool :=
  (Dyadic.ofFloat? x).isSome

end GraphMapper.Decimal
