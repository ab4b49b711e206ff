import GraphMapper.Decimal.Dyadic

/-!
# The shortest decimal that reads back

A float stands for every real number that rounds to it. Its **shortest decimal** is the
one with the fewest digits among those reals, and among several of that length the one
nearest to the float itself.

For each number of digits in turn the decimals of that length form a grid, and only the
two grid points around the float can be the nearest ones. The search stops at the first
grid with such a point inside the interval of reals that round to the float; seventeen
digits always suffice. All comparisons are between natural numbers: a number is kept as a
multiple of a fixed unit, and the grid is scaled to that unit.
-/

namespace GraphMapper.Decimal

/-- The decimal number `digits · 10 ^ exponent`. -/
structure Scientific where
  /-- The digits, read as one number. -/
  digits : Nat
  /-- The power of ten. -/
  exponent : Int
  deriving DecidableEq, Repr

/-- A positive real, with the reals that round to it, as multiples of one unit `1 / unit`. -/
structure Rounding where
  /-- The number itself. -/
  centre : Nat
  /-- The least real that rounds to it. -/
  low : Nat
  /-- The greatest real that rounds to it. -/
  high : Nat
  /-- Whether the two ends round to it themselves. -/
  closed : Bool
  /-- How many units make one. -/
  unit : Nat
  deriving Repr

namespace Rounding

/-- The reals that round to `significand · 2 ^ exponent`. Half the gap to a neighbour on
either side rounds to the number; below a power of two the gap is half as wide. -/
def ofDyadic (significand : Nat) (exponent : Int) : Rounding :=
  let lower := if significand = Nat.pow 2 52 && exponent ≠ -1074 then 1 else 2
  let quarters := exponent - 2
  let scale := Nat.pow 2 quarters.toNat
  ⟨4 * significand * scale, (4 * significand - lower) * scale, (4 * significand + 2) * scale,
    significand % 2 == 0, Nat.pow 2 (-quarters).toNat⟩

/-- Whether the decimal rounds to the number. -/
def admits (r : Rounding) (s : Scientific) : Bool :=
  let value := s.digits * Nat.pow 10 s.exponent.toNat * r.unit
  let ten := Nat.pow 10 (-s.exponent).toNat
  if r.closed then r.low * ten ≤ value && value ≤ r.high * ten
  else r.low * ten < value && value < r.high * ten

/-- The greatest multiple of `10 ^ exponent` that is not above the number. -/
def below (r : Rounding) (exponent : Int) : Scientific :=
  let scaled := r.centre * Nat.pow 10 (-exponent).toNat
  ⟨scaled / (r.unit * Nat.pow 10 exponent.toNat), exponent⟩

/-- Whether the number is nearer to the grid point above `s` than to `s`, ties going to
the even digit. -/
def prefersAbove (r : Rounding) (s : Scientific) : Bool :=
  let value := 2 * r.centre * Nat.pow 10 (-s.exponent).toNat
  let middle := (2 * s.digits + 1) * (r.unit * Nat.pow 10 s.exponent.toNat)
  middle < value || (middle == value && s.digits % 2 == 1)

/-- The decimal exponent of the number: the power of ten of its first digit. -/
def magnitude (r : Rounding) : Int :=
  if r.unit ≤ r.centre then (Nat.toDigits 10 (r.centre / r.unit)).length - 1
  else match (List.range 400).find? fun t => r.unit ≤ r.centre * Nat.pow 10 (t + 1) with
    | some t => -(t + 1)
    | none => -400

/-- The point of the grid of `10 ^ exponent` nearest to the number, if it rounds to it. -/
def onGrid? (r : Rounding) (exponent : Int) : Option Scientific :=
  let s := r.below exponent
  let t : Scientific := ⟨s.digits + 1, exponent⟩
  let (near, far) := if r.prefersAbove s then (t, s) else (s, t)
  if r.admits near then some near else if r.admits far then some far else none

/-- The shortest decimal that rounds to the number. -/
def shortest (r : Rounding) : Scientific :=
  match (List.range 17).findSome? fun k : Nat => r.onGrid? (r.magnitude - k) with
  | some s => s
  | none => r.below (r.magnitude - 17)

end Rounding

/-- The same decimal without the zeros at the end of its digits; `fuel` bounds their number. -/
def Scientific.trim : (fuel : Nat) → Scientific → Scientific
  | 0, s => s
  | fuel + 1, s =>
    if s.digits ≠ 0 && s.digits % 10 = 0 then Scientific.trim fuel ⟨s.digits / 10, s.exponent + 1⟩
    else s

/-- The shortest decimal of a dyadic number, its sign left aside. -/
def Dyadic.shortest (d : Dyadic) : Scientific :=
  if d.significand = 0 then ⟨0, 0⟩
  else (Rounding.ofDyadic d.significand d.exponent).shortest.trim 20

end GraphMapper.Decimal
