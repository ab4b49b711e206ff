import GraphMapper.TypeExpr
import GraphMapper.Validation
import GraphMapper.Value.Order

/-!
# Bounds

A field may bound its values: numbers by size, texts and collections by length. Some types
**look after** bounds themselves, in the course of reading a value: numbers after their
size, texts and collections after their length. They want bounds of the fitting kind, and
`Bounds.suit` says whether a type gets them. All other bounds are checked by comparing the
value that was read, whatever it is; if it does not compare, it is refused outright.

A bound is written down with the declaration of a type. It is **data**: no instance of an
entity type occurs in it.
-/

namespace GraphMapper

open Checked

namespace Value

mutual

/-- Whether a value is data: no instance of an entity type occurs in it. -/
def isData : Value → Bool
  | .list items => itemsAreData items
  | .map entries | .node entries | .itemized entries => entriesAreData entries
  | .entity _ _ => false
  | .iterator source => isData source
  | _ => true

/-- Whether all items are data. -/
def itemsAreData : List Value → Bool
  | [] => true
  | v :: rest => v.isData && itemsAreData rest

/-- Whether the keys and values of all entries are data. -/
def entriesAreData : List (Value × Value) → Bool
  | [] => true
  | (k, v) :: rest => k.isData && v.isData && entriesAreData rest

end

end Value

/-- A bound of a field. -/
structure Bound where
  /-- What values are compared with. -/
  value : Value
  /-- It is data. -/
  isData : value.isData = true

namespace Bound

/-- The bound that a value is, if it is data. -/
def ofValue? (v : Value) : Option Bound := if h : v.isData = true then some ⟨v, h⟩ else none

/-- The bound that an integer is. -/
def ofInt (i : Int) : Bound := ⟨.int i, rfl⟩

/-- The integer that a bound on integers is. -/
def integer? (b : Bound) : Option Int :=
  match b.value with
  | .int i => some i
  | .bool t => some (if t then 1 else 0)
  | _ => none

/-- The float that a bound on floats is. -/
def float? (b : Bound) : Option Float :=
  match b.value with
  | .float x => some x
  | .int i => Value.floatOfInt? i
  | .bool t => some (if t then 1.0 else 0.0)
  | _ => none

/-- The number that a bound on lengths is. -/
def length? (b : Bound) : Option Nat :=
  match b.integer? with
  | some (.ofNat n) => if n < Nat.pow 2 64 then some n else none
  | _ => none

end Bound

/-- Bounds on the length of a text or collection and on the size of a number. -/
structure Bounds where
  /-- The least length. -/
  minLength : Option Bound := none
  /-- The greatest length. -/
  maxLength : Option Bound := none
  /-- What the value has to be above. -/
  above : Option Bound := none
  /-- What the value must not be below. -/
  least : Option Bound := none
  /-- What the value has to be below. -/
  below : Option Bound := none
  /-- What the value must not be above. -/
  greatest : Option Bound := none

namespace Bounds

/-- The bounds on size. -/
def ofSize (b : Bounds) : Bounds := { b with minLength := none, maxLength := none }

/-- The bounds on length. -/
def ofLength (b : Bounds) : Bounds := { minLength := b.minLength, maxLength := b.maxLength }

/-- Whether there is a bound on size. -/
def boundsSize (b : Bounds) : Bool :=
  b.above.isSome || b.least.isSome || b.below.isSome || b.greatest.isSome

/-! ### Any values -/

/-- A complaint unless a value stands to a bound in one of some ways. -/
def compareWith (v : Value) (bound : Option Bound) (ways : List Standing) (c : Complaint) :
    Checked Unit :=
  match bound with
  | none => .ok ()
  | some bound => match v.standing? bound.value with
    | none => .error .incomparable
    | some s => if ways.contains s then .ok () else complain c

/-- A complaint unless the length of a value stands to a bound in one of some ways. There is
only something to complain about if the bound is a length. -/
def compareLength (v : Value) (bound : Option Bound) (ways : List Standing) (c : Complaint) :
    Checked Unit :=
  match bound, v.size? with
  | none, _ => .ok ()
  | some _, none => .error .incomparable
  | some length, some n => match compareWith (.int n) bound ways c with
    | .error (.issues found) =>
      .error (if length.length?.isSome then .issues found else .incomparable)
    | outcome => outcome

/-- The value, if it is within the bounds. Its size comes before its length. -/
def check (b : Bounds) (v : Value) : Checked Unit := do
  compareWith v b.above [.greater] .notAbove
  compareWith v b.least [.greater, .equal] .below
  compareWith v b.below [.less] .notBelow
  compareWith v b.greatest [.less, .equal] .above
  compareLength v b.minLength [.greater, .equal] .tooFew
  compareLength v b.maxLength [.less, .equal] .tooMany

/-! ### Numbers -/

/-- Whether an integer compares with a bound in a way. -/
def compareInteger (holds : Int → Int → Bool) (bound : Option Bound) (i : Int) : Bool :=
  (bound.bind Bound.integer?).all (holds i)

/-- The integer, if it is within the bounds. -/
def checkInteger (b : Bounds) (i : Int) : Checked Int :=
  if !compareInteger (fun x y => decide (x ≤ y)) b.greatest i then complain .above
  else if !compareInteger (fun x y => decide (x < y)) b.below i then complain .notBelow
  else if !compareInteger (fun x y => decide (y ≤ x)) b.least i then complain .below
  else if !compareInteger (fun x y => decide (y < x)) b.above i then complain .notAbove
  else .ok i

/-- Whether a float compares with a bound in a way. -/
def compareFloat (holds : Float → Float → Bool) (bound : Option Bound) (x : Float) : Bool :=
  (bound.bind Bound.float?).all (holds x)

/-- The float, if it is within the bounds; what is not a number is within none. -/
def checkFloat (b : Bounds) (x : Float) : Checked Float :=
  if !compareFloat (fun x y => decide (x ≤ y)) b.greatest x then complain .above
  else if !compareFloat (fun x y => decide (x < y)) b.below x then complain .notBelow
  else if !compareFloat (fun x y => decide (y ≤ x)) b.least x then complain .below
  else if !compareFloat (fun x y => decide (y < x)) b.above x then complain .notAbove
  else .ok x

/-! ### Lengths -/

/-- The least length. -/
def shortest? (b : Bounds) : Option Nat := b.minLength.bind Bound.length?

/-- The greatest length. -/
def longest? (b : Bounds) : Option Nat := b.maxLength.bind Bound.length?

/-- The text, if its length is within the bounds. -/
def checkText (b : Bounds) (s : String) : Checked String :=
  if b.shortest?.any (s.length < ·) then complain .tooShort
  else if b.longest?.any (· < s.length) then complain .tooLong
  else .ok s

/-- The text, if the number of bytes it takes is within the bounds. -/
def checkBytes (b : Bounds) (s : String) : Checked String :=
  if b.shortest?.any (s.utf8ByteSize < ·) then complain .tooFewBytes
  else if b.longest?.any (· < s.utf8ByteSize) then complain .tooManyBytes
  else .ok s

/-- A complaint unless a number of items is within the bounds. -/
def checkCount (b : Bounds) (n : Nat) : Checked Unit :=
  if b.shortest?.any (n < ·) then complain .tooFew
  else if b.longest?.any (· < n) then complain .tooMany
  else .ok ()

/-! ### Who looks after which bounds -/

/-- What a type looks after by itself. -/
inductive Care where
  /-- The size of integers. -/
  | integers
  /-- The size of floats. -/
  | floats
  /-- Lengths. -/
  | lengths
  /-- Nothing. -/
  | nothing
  deriving DecidableEq, Repr

/-- What the type of an expression looks after by itself. -/
def careOf : TypeExpr → Care
  | .plain .integer => .integers
  | .plain .float => .floats
  | .plain .text | .plain .bytes | .plain .map | .plain .list | .plain .set | .plain .tuple
  | .mapping _ _ _ | .bare _ => .lengths
  | .collection .sequence _ => .nothing
  | .collection _ _ => .lengths
  | _ => .nothing

/-- The bounds that a type looks after, and those that are left. Lengths are left as well if
there are bounds on size. -/
def split (b : Bounds) (t : TypeExpr) : Bounds × Bounds :=
  match careOf t with
  | .integers | .floats => (b.ofSize, b.ofLength)
  | .lengths => if b.boundsSize then ({}, b) else (b, {})
  | .nothing => ({}, b)

/-- Whether every bound that a type looks after is of the fitting kind. -/
def suitNamed (b : Bounds) (t : TypeExpr) : Bool :=
  let own := (b.split t).1
  let sizes := [own.above, own.least, own.below, own.greatest].filterMap id
  let lengths := [own.minLength, own.maxLength].filterMap id
  match careOf t with
  | .integers => sizes.all fun bound => bound.integer?.isSome
  | .floats => sizes.all fun bound => bound.float?.isSome
  | .lengths => lengths.all fun bound => bound.length?.isSome
  | .nothing => true

/-- Whether the bounds suit a type. Those of an optional type are bounds of the type. -/
def suit (b : Bounds) : TypeExpr → Bool
  | .union _ members =>
    match members.filter (!·.isNull) with
    | [t] => b.suitNamed t
    | _ => true
  | t => b.suitNamed t

end Bounds

end GraphMapper
