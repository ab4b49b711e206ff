import GraphMapper.Failure

/-!
# Identifiers

Labels, property keys and relationship names have no parameter form in a statement. They
are pasted into its text, and so they have to be **plain identifiers**: an ASCII letter or
underscore, then ASCII letters, digits and underscores.

One line feed at the very end is let through as well. An `Identifier` carries the evidence
that its text was accepted, so whatever is built from identifiers alone pastes nothing else
into a statement.
-/

namespace GraphMapper

/-- Whether a character may stand first in an identifier. -/
def isIdentifierHead (c : Char) : Bool := c.isAlpha || c = '_'

/-- Whether a character may stand inside an identifier. -/
def isIdentifierChar (c : Char) : Bool := c.isAlphanum || c = '_'

/-- Whether a row of characters continues an identifier to its end. -/
def continuesIdentifier : List Char → Bool
  | [] => true
  | c :: rest => (isIdentifierChar c && continuesIdentifier rest) || (c = '\n' && rest.isEmpty)

/-- Whether a row of characters is accepted as an identifier. -/
def isIdentifier : List Char → Bool
  | [] => false
  | c :: rest => isIdentifierHead c && continuesIdentifier rest

/-- A text accepted as an identifier. -/
@[ext] structure Identifier where
  /-- The text. -/
  text : String
  /-- It was accepted. -/
  accepted : isIdentifier text.toList = true
  deriving DecidableEq

namespace Identifier

/-- The identifier of a text, if it is accepted. -/
def ofText? (s : String) : Option Identifier :=
  if h : isIdentifier s.toList = true then some ⟨s, h⟩ else none

/-- The identifier a value is, or the complaint that it is none of this `kind`. -/
def require (v : Value) (kind : String) : Except Failure Identifier :=
  match v.text?.bind ofText? with
  | some i => .ok i
  | none => .error (.invalidIdentifier v kind)

instance : ToString Identifier := ⟨Identifier.text⟩

@[simp] theorem ofText?_text (i : Identifier) : ofText? i.text = some i := by
  simp [ofText?, i.accepted]

theorem ofText?_eq_some_iff {s : String} {i : Identifier} : ofText? s = some i ↔ i.text = s := by
  refine ⟨fun h => ?_, fun h => h ▸ ofText?_text i⟩
  unfold ofText? at h
  split at h
  · cases h
    rfl
  · cases h

theorem ofText?_eq_none_iff {s : String} : ofText? s = none ↔ isIdentifier s.toList = false := by
  simp [ofText?]

/-- A value is accepted exactly if it is the text of an identifier, and then this is the
identifier it is. -/
theorem require_eq_ok_iff {v : Value} {kind : String} {i : Identifier} :
    require v kind = .ok i ↔ v = .text i.text := by
  have accepted : require v kind = .ok i ↔ v.text?.bind ofText? = some i := by
    unfold require
    cases v.text?.bind ofText? <;> simp
  rw [accepted]
  cases v
  case text s => simpa [Value.text?, ofText?_eq_some_iff] using eq_comm
  all_goals simp [Value.text?]

end Identifier

end GraphMapper
