import GraphMapper.Validation

/-!
# How well a value fits

A member of a union is chosen by how well it fits the value. The **closeness** of a fit says
how much the value had to be read as something else; for instances that were made of maps,
the number of fields that were **given** counts first. `choose` goes through the members in
order and stops at the first exact fit.
-/

namespace GraphMapper

/-- How close a value is to what was made of it. -/
inductive Closeness where
  /-- It was read as something else. -/
  | read
  /-- It is an integer taken as a float, or a value of which any kind would have done. -/
  | near
  /-- It is what was made of it. -/
  | exact
  deriving DecidableEq, Repr

namespace Closeness

/-- The rank of a closeness; closer ones rank higher. -/
def rank : Closeness → Nat
  | read => 0
  | near => 1
  | exact => 2

/-- The lesser of two. -/
def min (c d : Closeness) : Closeness := if c.rank ≤ d.rank then c else d

end Closeness

/-- How well a value fits a type. -/
structure Fit where
  /-- How close it is. -/
  closeness : Closeness := .exact
  /-- How many fields were given to the instances made of it, if any were made. -/
  given : Option Nat := none
  deriving DecidableEq, Repr

namespace Fit

/-- The fit of two parts together. -/
def and (f g : Fit) : Fit :=
  { closeness := f.closeness.min g.closeness
    given := match f.given, g.given with
      | some n, some m => some (n + m)
      | some n, none => some n
      | none, g => g }

/-- The fit of all parts together. -/
def all (fits : List Fit) : Fit := fits.foldl and {}

/-- A fit no closer than said. -/
def atMost (c : Closeness) (f : Fit) : Fit := { f with closeness := f.closeness.min c }

/-- Whether nothing can fit better. -/
def isPerfect (f : Fit) : Bool := f.closeness = .exact && f.given.isNone

/-- Whether a fit is better than another. More fields given count first, if both fits say
how many. -/
def betterThan (f g : Fit) : Bool :=
  match f.given, g.given with
  | some n, some m => if n ≠ m then m < n else g.closeness.rank < f.closeness.rank
  | _, _ => g.closeness.rank < f.closeness.rank

end Fit

/-- What a type made of a value, and how well the value fits. -/
structure Accepted where
  /-- What was made of it. -/
  value : Value
  /-- How well it fits. -/
  fit : Fit := {}
  /-- Whether it is frozen: a tuple of keys, or a frozen set. -/
  frozen : Bool := false

namespace Accepted

/-- A value that is what was made of it. -/
def exactly (v : Value) : Accepted := { value := v }

/-- A value of which any kind would have done. -/
def anyKind (v : Value) : Accepted := { value := v, fit := { closeness := .near } }

/-- A value read as another. -/
def reading (v : Value) : Accepted := { value := v, fit := { closeness := .read } }

/-- Whether what was made can be the key of a map or an item of a set. -/
def isKey (a : Accepted) : Bool := a.frozen || a.value.isKey

theorem isKey_of_value {a : Accepted} (h : a.value.isKey = true) : a.isKey = true := by
  rw [isKey, h, Bool.or_true]

theorem isKey_of_frozen_eq {a : Accepted} (h : a.frozen = false) : a.isKey = a.value.isKey := by
  rw [isKey, h, Bool.false_or]

/-- The better of what there is and another that comes later. -/
def better (best : Option Accepted) (next : Accepted) : Accepted :=
  match best with
  | some a => if next.fit.betterThan a.fit then next else a
  | none => next

end Accepted

/-- The best of the outcomes for the members of a union, each with the name of its member.
Where no member accepts, the issues of all are listed, each under the name. -/
def choose (best : Option Accepted) (found : List Issue) :
    List (String × Checked Accepted) → Checked Accepted
  | [] => match best with
    | some a => .ok a
    | none => .error (.issues found)
  | (name, outcome) :: rest => match outcome.under (.key name) with
    | .ok a => if a.fit.isPerfect then .ok a else choose (some (.better best a)) found rest
    | .error (.issues more) => choose best (found ++ more) rest
    | .error .incomparable => .error .incomparable

end GraphMapper
