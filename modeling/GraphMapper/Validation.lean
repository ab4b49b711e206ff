import GraphMapper.Decimal.Numeral
import GraphMapper.Failure

/-!
# Validation

A value that comes in from outside is **validated** against the type it is meant for. The
outcome is a value of this type – often the same, sometimes a reading of it, as when a text
writes an integer – or a refusal. As a rule a refusal lists every issue that was found:
validation does not stop at the first one, the parts of a value are all looked at, and their
issues listed in order. Only a value that cannot even be compared, with its bound or with
other keys, puts an end to it.

This file holds the outcomes and how they combine, and the readings of plain values.
-/

namespace GraphMapper

/-- Why a value is not accepted. -/
inductive Refusal where
  /-- For these issues, in order. -/
  | issues (found : List Issue)
  /-- It cannot be compared with its bound, or with other keys of a map. -/
  | incomparable
  deriving DecidableEq, Repr

namespace Refusal

/-- Two refusals together. -/
def and : Refusal → Refusal → Refusal
  | issues first, issues second => issues (first ++ second)
  | _, _ => incomparable

/-- The same refusal, seen from one step further out. -/
def under (step : Step) : Refusal → Refusal
  | issues found => issues (found.map (Issue.under step))
  | incomparable => incomparable

/-- The failure of an operation whose input is refused. -/
def toFailure : Refusal → Failure
  | issues found => .validation found
  | incomparable => .misuse .wrongKind

end Refusal

/-- The outcome of a validation: what was read, or why nothing was. -/
abbrev Checked (α : Type) := Except Refusal α

namespace Checked

variable {α β : Type}

/-- A single complaint, about the value itself. -/
def complain (c : Complaint) : Checked α := .error (.issues [⟨[], c⟩])

/-- The same outcome, seen from one step further out. -/
def under (step : Step) (c : Checked α) : Checked α := c.mapError (Refusal.under step)

/-- Two outcomes together, with the issues of both. -/
def both : Checked α → Checked β → Checked (α × β)
  | .ok a, .ok b => .ok (a, b)
  | .ok _, .error r => .error r
  | .error r, .ok _ => .error r
  | .error first, .error second => .error (first.and second)

/-- All outcomes together, with the issues of all. -/
def gather : List (Checked α) → Checked (List α)
  | [] => .ok []
  | c :: rest => (both c (gather rest)).map fun p => p.1 :: p.2

/-- What was read, or a complaint where nothing was. -/
def ofOption (c : Complaint) : Option α → Checked α
  | some a => .ok a
  | none => complain c

@[simp] theorem under_ok (step : Step) (a : α) : under step (.ok a) = .ok a := rfl

@[simp] theorem under_error (step : Step) (r : Refusal) :
    under step (.error r : Checked α) = .error (r.under step) := rfl

/-- What is read does not depend on where it is seen from. -/
theorem under_eq_ok_iff {step : Step} {c : Checked α} {a : α} :
    under step c = .ok a ↔ c = .ok a := by
  cases c <;> simp

/-- Two outcomes together read a pair exactly if each reads its part. -/
theorem both_eq_ok_iff {c : Checked α} {d : Checked β} {p : α × β} :
    both c d = .ok p ↔ c = .ok p.1 ∧ d = .ok p.2 := by
  obtain ⟨a, b⟩ := p
  cases c <;> cases d <;> simp [both]

/-- All outcomes together read a list exactly if each reads its item. -/
theorem gather_eq_ok_iff {cs : List (Checked α)} {as : List α} :
    gather cs = .ok as ↔ cs = as.map .ok := by
  induction cs generalizing as with
  | nil => cases as <;> simp [gather]
  | cons c rest ih =>
    cases c with
    | error r => cases as <;> cases h : gather rest <;> simp [gather, both, h, Except.map]
    | ok a =>
      cases as with
      | nil => cases h : gather rest <;> simp [gather, both, h, Except.map]
      | cons b bs =>
        have tail := @ih bs
        cases h : gather rest <;> simp_all [gather, both, Except.map]

end Checked

namespace Value

open Checked

/-! ### Plain values -/

/-- A text; nothing else is read as one. -/
def readText : Value → Checked String
  | .text s => .ok s
  | _ => complain .notText

/-- A whole float as an integer. Only those below `2 ^ 63` in size are read. -/
def readWholeFloat (x : Float) : Checked Int :=
  if !Decimal.isFiniteFloat x then complain .notFinite
  else match Decimal.wholeFloat? x with
    | none => complain .fractional
    | some i => if i.natAbs < Nat.pow 2 63 then .ok i else complain .tooLarge

/-- The integer that a numeral writes. -/
def readNumeral (s : String) : Checked Int :=
  match Decimal.readInt s with
  | .integer i => .ok i
  | .tooLong => complain .tooLarge
  | .unreadable => complain .unreadableInteger

/-- An integer, as itself, as a truth value, as a whole float or as a numeral. -/
def readInteger : Value → Checked Int
  | .int i => .ok i
  | .bool b => .ok (if b then 1 else 0)
  | .float x => readWholeFloat x
  | .text s => readNumeral s
  | _ => complain .notInteger

/-- The float nearest to an integer, if the integer is not beyond all floats. -/
def floatOfInt? (i : Int) : Option Float :=
  let x := Float.ofInt i
  if Decimal.isFiniteFloat x then some x else none

/-- A float, as itself, as an integer, as a truth value or as a numeral. -/
def readFloat : Value → Checked Float
  | .float x => .ok x
  | .int i => ofOption .notFloat (floatOfInt? i)
  | .bool b => .ok (if b then 1.0 else 0.0)
  | .text s => ofOption .unreadableFloat (Decimal.readFloat? s)
  | _ => complain .notFloat

/-- The words for true, in small letters. -/
def wordsForTrue : List String := ["1", "t", "true", "y", "yes", "on"]

/-- The words for false, in small letters. -/
def wordsForFalse : List String := ["0", "f", "false", "n", "no", "off"]

/-- The truth value that a word stands for; it may be in capitals. -/
def readWord (s : String) : Checked Bool :=
  let word := String.ofList (s.toList.map Char.toLower)
  if wordsForTrue.contains word then .ok true
  else if wordsForFalse.contains word then .ok false
  else complain .unreadableTruth

/-- The truth value that an integer stands for. -/
def readFlag (i : Int) : Checked Bool :=
  if i = 1 then .ok true else if i = 0 then .ok false else complain .unreadableTruth

/-- A truth value, as itself, as one or zero, or as a word. Numbers of more than 64 bits are
not looked at, nor is the least float of 64 bits. -/
def readTruth : Value → Checked Bool
  | .bool b => .ok b
  | .int i => if -Nat.pow 2 63 ≤ i && i < Nat.pow 2 63 then readFlag i else complain .notTruth
  | .float x => match Decimal.wholeFloat? x with
    | some i => if i.natAbs < Nat.pow 2 63 then readFlag i else complain .notTruth
    | none => complain .notTruth
  | .text s => readWord s
  | _ => complain .notTruth

end Value

end GraphMapper
