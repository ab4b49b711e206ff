import GraphMapper.Value

/-!
# The order of values

Bounds of fields and the parameters of statements are put in order. Numbers compare by size,
whatever their kind and without any rounding; texts compare by their code points, and lists
by the first items in which they differ. Values of other kinds, or of two different ones, do
not compare at all; and a float that is not a number stands in no relation to any other.
-/

namespace GraphMapper

/-- How a value stands to another that it compares with. -/
inductive Standing where
  /-- It is less. -/
  | less
  /-- It is equal. -/
  | equal
  /-- It is greater. -/
  | greater
  /-- It is none of these. -/
  | unrelated
  deriving DecidableEq, Repr

namespace Standing

/-- The standing that an ordering says. -/
def ofOrdering : Ordering → Standing
  | .lt => less
  | .eq => equal
  | .gt => greater

/-- The standing of the other value. -/
def swap : Standing → Standing
  | less => greater
  | greater => less
  | s => s

/-- How a float stands to another. -/
def ofFloats (x y : Float) : Standing :=
  if x < y then less else if x == y then equal else if y < x then greater else unrelated

/-- How an integer stands to a float. -/
def ofIntFloat (i : Int) (x : Float) : Standing :=
  match Decimal.Dyadic.ofFloat? x with
  | some d => ofOrdering (d.compareInt i)
  | none => ofFloats 0 x

end Standing

namespace Value

/-- How an integer stands to a value, if they compare. -/
def standingOfInt? (i : Int) : Value → Option Standing
  | .bool b => some (.ofOrdering (compare i (if b then 1 else 0)))
  | .int j => some (.ofOrdering (compare i j))
  | .float x => some (.ofIntFloat i x)
  | _ => none

/-- How a float stands to a value, if they compare. -/
def standingOfFloat? (x : Float) : Value → Option Standing
  | .float y => some (.ofFloats x y)
  | .bool b => some (Standing.ofIntFloat (if b then 1 else 0) x).swap
  | .int i => some (Standing.ofIntFloat i x).swap
  | _ => none

mutual

/-- How a value stands to another, if they compare. -/
def standing? : Value → Value → Option Standing
  | .bool b, other => standingOfInt? (if b then 1 else 0) other
  | .int i, other => standingOfInt? i other
  | .float x, other => standingOfFloat? x other
  | .text s, other => match other with
    | .text t => some (.ofOrdering (compare s t))
    | _ => none
  | .list xs, other => match other with
    | .list ys => itemsStanding? xs ys
    | _ => none
  | _, _ => none
termination_by structural v => v

/-- How a list of items stands to another, if their first items that differ compare. -/
def itemsStanding? : List Value → List Value → Option Standing
  | [], others => some (if others.isEmpty then .equal else .less)
  | x :: xs, others => match others with
    | [] => some .greater
    | y :: ys => if x == y then itemsStanding? xs ys else standing? x y
termination_by structural xs => xs

end

/-- A value put in its place among values in increasing order, if it compares with those
before it and with the first that is greater. -/
def insertOrdered (v : Value) : List Value → Option (List Value)
  | [] => some [v]
  | w :: rest => match standing? w v with
    | none => none
    | some .less => (insertOrdered v rest).map (w :: ·)
    | some _ => some (v :: w :: rest)

/-- Values in increasing order, if they compare. -/
def ordered? : List Value → Option (List Value)
  | [] => some []
  | v :: rest => (ordered? rest).bind (insertOrdered v)

end Value

end GraphMapper
