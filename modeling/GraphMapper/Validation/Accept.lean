import GraphMapper.TypeExpr.MemberName
import GraphMapper.Validation.Bounds
import GraphMapper.Validation.Fit

/-!
# What a type expression accepts

`TypeExpr.accept` validates a value against a type expression. It follows the expression
inwards: a list is validated item by item, a map key by key, a union by its members, of
which the one that fits best is chosen. Sets and tuples are read from lists, and stay lists
here, those of sets without repetitions. Only what is to be gone through one by one is not
looked into: an iterator is made, which validates the items when they are asked for. Where it
comes to an entity type it hands the value on to `asEntity`, which is the only thing it does
not know by itself.

Bounds are those of a field. `TypeExpr.acceptWithin` gives a type those that it looks after
and checks the others on what the type made of the value. The bounds of an optional type are
those of the type, and a null is within all of them; the bounds of any other union are
checked on what its members made of the value. Inside collections there are no bounds.
-/

namespace GraphMapper

open Checked

/-- The step from a map to the entry of a key. A key that is an integer of 64 bits counts as
a number, and so does a truth value; any other key is displayed. -/
def Value.step : Value → Step
  | .int i => if -Nat.pow 2 63 ≤ i && i < Nat.pow 2 63 then .index i else .key (Value.int i).display
  | .bool b => .index (if b then 1 else 0)
  | v => .key v.display

/-- The values of a list, or a complaint. -/
def Value.readList (c : Complaint) : Value → Checked (List Value)
  | .list items => .ok items
  | _ => complain c

/-- The values of a list that is wanted as a sequence. -/
def Value.readSequence : Value → Checked (List Value)
  | .list items => .ok items
  | .text _ => complain .textAsSequence
  | _ => complain .notOfClass

/-- The entries of a mapping, or a complaint. -/
def Value.readMap (v : Value) : Checked Entries := ofOption .notMap v.mapping?

/-- Whether the collections of a kind are sets. -/
def CollectionKind.isSet : CollectionKind → Bool
  | .set | .frozenSet => true
  | _ => false

/-- The complaint about a value that is no collection of a kind. -/
def CollectionKind.complaint : CollectionKind → Complaint
  | .list | .plainList => .notList
  | .sequence => .notOfClass
  | .set => .notSet
  | .frozenSet => .notFrozenSet
  | .iterable => .notIterable
  | .tuple => .notTuple

/-- How close a list is to a collection of a kind. -/
def CollectionKind.closeness : CollectionKind → Closeness
  | .list | .plainList | .sequence => .exact
  | .set | .frozenSet | .iterable | .tuple => .read

/-! ### Collections and mappings -/

/-- The outcomes for the items of a list, each seen from the list. -/
def acceptEach (item : Value → Checked Accepted) (items : List Value) : Checked (List Accepted) :=
  gather (items.mapIdx fun n v => (item v).under (.index n))

/-- The outcome for the items of a list that may be bounded. The items come one by one, and
as soon as there are too many of them, that alone is the issue. -/
def acceptItems (b : Bounds) (item : Value → Checked Accepted) (items : List Value) :
    Checked (List Accepted) :=
  match b.longest?.filter (· < items.length) with
  | some n => match acceptEach item (items.take (n + 1)) with
    | .error .incomparable => .error .incomparable
    | _ => complain .tooMany
  | none => do
    let accepted ← acceptEach item items
    b.checkCount accepted.length
    pure accepted

/-- Some items that are all different with one more, unless one of them is equal to it. -/
def adjoin (kept : List Value) (v : Value) : List Value :=
  if kept.any (· == v) then kept else kept ++ [v]

/-- The items of a set, from the `n`-th on. Those `kept` so far are all different, and some
issues were `found`. Of equal items the first is kept; as soon as too many are kept, that alone
is the issue. -/
def acceptDistinct (longest : Option Nat) (item : Value → Checked Accepted) (n : Nat)
    (kept : List Value) (found : List Issue) : List Value → Checked (List Value)
  | [] => if found.isEmpty then .ok kept else .error (.issues found)
  | v :: rest => match (item v).under (.index n) with
    | .error .incomparable => .error .incomparable
    | .error (.issues more) => acceptDistinct longest item (n + 1) kept (found ++ more) rest
    | .ok a =>
      if a.isKey then
        if longest.any (· < (adjoin kept a.value).length) then complain .tooMany
        else acceptDistinct longest item (n + 1) (adjoin kept a.value) found rest
      else
        acceptDistinct longest item (n + 1) kept (found ++ [⟨[.index n], .notHashable⟩]) rest

/-- A set made of the items of a list. -/
def acceptSet (b : Bounds) (frozen : Bool) (item : Value → Checked Accepted)
    (items : List Value) : Checked Accepted := do
  let kept ← acceptDistinct b.longest? item 0 [] [] items
  b.checkCount kept.length
  pure { Accepted.reading (.list kept) with frozen := frozen }

/-- A collection of a kind made of accepted items. -/
def CollectionKind.collect (kind : CollectionKind) (items : List Accepted) : Accepted :=
  { value := .list (items.map (·.value))
    fit := (Fit.all (items.map (·.fit))).atMost kind.closeness
    frozen := kind = .tuple && items.all (·.isKey) }

/-- A tuple of keys is a key, and no other collection of accepted items is. -/
theorem CollectionKind.isKey_collect (kind : CollectionKind) (items : List Accepted) :
    (kind.collect items).isKey = (decide (kind = .tuple) && items.all (·.isKey)) :=
  Bool.or_false _

/-- A list whose items are not looked at. -/
def acceptAnyItems (b : Bounds) (items : List Value) : Checked Accepted := do
  b.checkCount items.length
  pure (.exactly (.list items))

/-- Whether a type leaves the items of a list alone. -/
def TypeExpr.leavesItems : TypeExpr → Bool
  | .plain .anything | .plain .object => true
  | _ => false

/-- What a collection of a kind makes of a value, if `item` speaks for its items. An iterator
fits whatever it is made of. -/
def CollectionKind.accept (kind : CollectionKind) (b : Bounds) (itemType : TypeExpr)
    (item : Value → Checked Accepted) (v : Value) : Checked Accepted :=
  match kind with
  | .sequence => match itemType, v with
    | .plain .anything, .text _ => .ok (.exactly v)
    | _, _ => do
      let items ← v.readSequence
      if itemType.leavesItems then acceptAnyItems b items
      else pure (CollectionKind.sequence.collect (← acceptItems b item items))
  | .iterable => if v.isIterable then .ok (.exactly (.iterator v)) else complain .notIterable
  | kind => do
    let items ← v.readList kind.complaint
    if kind.isSet then acceptSet b (kind = .frozenSet) item items
    else if itemType.leavesItems && kind.closeness = .exact then acceptAnyItems b items
    else pure (kind.collect (← acceptItems b item items))

/-- A key as it is, unless it was made into something that cannot be the key of a map. -/
def acceptKey (a : Accepted) : Checked Accepted :=
  if a.isKey then .ok a else .error .incomparable

/-- The outcome for an entry of a map, seen from the map. -/
def acceptEntry (key value : Value → Checked Accepted) (e : Value × Value) :
    Checked (Accepted × Accepted) := do
  let (k, v) ← (both ((key e.1).under (.key "[key]")) (value e.2)).under e.1.step
  pure (← acceptKey k, v)

/-- The outcome for the entries of a map that may be bounded. -/
def acceptEntries (b : Bounds) (key value : Value → Checked Accepted) (entries : Entries) :
    Checked Accepted := do
  let accepted ← gather (entries.map (acceptEntry key value))
  let made := Assoc.ofEntries (accepted.map fun e => (e.1.value, e.2.value))
  b.checkCount made.length
  pure { value := .map made, fit := Fit.all (accepted.map fun e => e.1.fit.and e.2.fit) }

/-! ### Plain types and enumerations -/

/-- What a plain type makes of a value, within the bounds it looks after. -/
def PlainType.accept (b : Bounds) (p : PlainType) (v : Value) : Checked Accepted :=
  match p with
  | .text => (v.readText >>= b.checkText).map fun s => .exactly (.text s)
  | .integer => (v.readInteger >>= b.checkInteger).map fun i => match v with
    | .int _ => .exactly (.int i)
    | _ => .reading (.int i)
  | .float => (v.readFloat >>= b.checkFloat).map fun x => match v with
    | .float _ => .exactly (.float x)
    | .int _ => { value := .float x, fit := { closeness := .near } }
    | _ => .reading (.float x)
  | .truth => v.readTruth.map fun t => match v with
    | .bool _ => .exactly (.bool t)
    | _ => .reading (.bool t)
  | .anything | .object => .ok (.anyKind v)
  | .bytes => match v with
    | .text s => (b.checkBytes s).map fun s => .reading (.text s)
    | _ => complain .notBytes
  | .map => v.readMap >>= acceptEntries b (.ok ∘ .anyKind) (.ok ∘ .anyKind)
  | .list => v.readList .notList >>= acceptAnyItems b
  | .set => v.readList .notSet >>= acceptSet b false (.ok ∘ .anyKind)
  | .tuple => v.readList .notTuple >>= fun items =>
    (acceptItems b (.ok ∘ .anyKind) items).map CollectionKind.tuple.collect
  | .null => match v with
    | .null => .ok (.exactly v)
    | _ => complain .notNull

/-- The value of the first member of an enumeration that is equal to a value. One without
members asks for instances, of which there are none. -/
def acceptMember (members : List (String × Value)) (v : Value) : Checked Accepted :=
  (ofOption (if members.isEmpty then .notOfClass else .notMember)
    (members.find? fun m => m.2 == v)).map fun m => .reading m.2

/-! ### Type expressions -/

namespace TypeExpr

/-- The outcome for a union, from those of its members. A single member speaks for the
union. -/
def ofOutcomes : List (String × Checked Accepted) → Checked Accepted
  | [(_, outcome)] => outcome
  | outcomes => choose none [] outcomes

mutual

/-- What a type expression makes of a value, within the bounds it looks after; `asEntity`
speaks for the entity types. -/
def accept (asEntity : EntityRef → Value → Checked Accepted) (b : Bounds) :
    TypeExpr → Value → Checked Accepted
  | .plain p, v => p.accept b v
  | .entity r, v => asEntity r v
  | .enumeration _ members, v => acceptMember members v
  | .collection kind item, v => kind.accept b item (accept asEntity {} item) v
  | .mapping _ key value, v =>
    v.readMap >>= acceptEntries b (accept asEntity {} key) (accept asEntity {} value)
  | .bare .list, v => PlainType.list.accept b v
  | .bare .map, v => PlainType.map.accept b v
  | .union _ members, v =>
    if v.isNull && members.any isNull then .ok (.exactly v)
    else ofOutcomes (acceptMembers asEntity b members v)

/-- What the members of a union other than null make of a value, each with its name. -/
def acceptMembers (asEntity : EntityRef → Value → Checked Accepted) (b : Bounds) :
    List TypeExpr → Value → List (String × Checked Accepted)
  | [], _ => []
  | t :: rest, v =>
    if t.isNull then acceptMembers asEntity b rest v
    else (t.memberName, accept asEntity b t v) :: acceptMembers asEntity b rest v

end

/-- What a type makes of a value within bounds, those included that it does not look
after. -/
def acceptBounded (asEntity : EntityRef → Value → Checked Accepted) (b : Bounds) (t : TypeExpr)
    (v : Value) : Checked Accepted := do
  let (own, others) := b.split t
  let accepted ← t.accept asEntity own v
  others.check accepted.value
  pure accepted

/-- What a type makes of a value within the bounds of a field. -/
def acceptWithin (asEntity : EntityRef → Value → Checked Accepted) (b : Bounds) (t : TypeExpr)
    (v : Value) : Checked Accepted :=
  match t with
  | .union form members =>
    if v.isNull && members.any isNull then .ok (.exactly v)
    else match members.filter (!·.isNull) with
      | [t] => t.acceptBounded asEntity b v
      | _ => acceptBounded asEntity b (.union form members) v
  | t => t.acceptBounded asEntity b v

end TypeExpr

end GraphMapper
