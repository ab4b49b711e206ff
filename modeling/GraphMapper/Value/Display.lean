import GraphMapper.Decimal.Layout
import GraphMapper.Text.Quoted
import GraphMapper.Value

/-!
# The text of a value

Messages and templates show values. A value is **written** the way a reader of a message
expects it: texts quoted, lists in brackets, maps in braces, an instance by a summary. It is
**displayed** the same way, except that a text stands for itself and an instance for its
attributes.
-/

namespace GraphMapper

/-- Floats are positional from `0.0001` up to, but not including, `1e16`, and exponents have
two digits at least. -/
def Value.floatLayout : Decimal.Layout := ⟨-4, 16, 2⟩

namespace Value

/-- Texts with a comma and a space between neighbours. -/
def commaSeparated (parts : List String) : String := ", ".intercalate parts

/-- A short description of an instance: its type, its identifier, and whether it is stored
or deleted. The identifier and the flag are given as they are displayed and tested. -/
def instanceSummary (typeName identifier : String) (stored deleted : Bool) : String :=
  typeName ++ "(uuid='" ++ identifier ++ "' (" ++ (if stored then "persisted" else "new")
    ++ (if deleted then ", deleted" else "") ++ "))"

mutual

/-- The written form of a value. -/
def written : Value → String
  | .null => "None"
  | .bool true => "True"
  | .bool false => "False"
  | .int i => toString i
  | .float x => floatLayout.write x
  | .text s => Text.quoted s
  | .list items => "[" ++ commaSeparated (writtenItems items) ++ "]"
  | .map entries | .node entries | .itemized entries =>
    "\x7b" ++ commaSeparated (writtenEntries entries) ++ "\x7d"
  | .entity r attributes =>
    let shown := displayedAttributes attributes
    let identifier := (shown.lookup "uuid").getD ("None", false)
    let deleted := (shown.lookup "is_deleted").getD ("False", false)
    instanceSummary r.name identifier.1 identifier.2 deleted.2
  | .type t => t.written
  | .iterator source => "ValidatorIterator(" ++ written source ++ ")"

/-- The written forms of items. -/
def writtenItems : List Value → List String
  | [] => []
  | v :: rest => written v :: writtenItems rest

/-- The written forms of entries, key and value with a colon between. -/
def writtenEntries : List (Value × Value) → List String
  | [] => []
  | (k, v) :: rest => (written k ++ ": " ++ written v) :: writtenEntries rest

/-- Attributes with their displayed values and whether these are present. -/
def displayedAttributes : List (String × Value) → List (String × String × Bool)
  | [] => []
  | (n, v) :: rest =>
    let plain := written v
    let shown := match v with
      | .text s => s
      | .entity _ attributes => " ".intercalate (writtenAttributes attributes)
      | _ => plain
    (n, shown, v.truthy) :: displayedAttributes rest

/-- Attributes with their written values, an equals sign between. -/
def writtenAttributes : List (String × Value) → List String
  | [] => []
  | (n, v) :: rest => (n ++ "=" ++ written v) :: writtenAttributes rest

end

/-- The displayed form of a value: a text stands for itself, an instance for its
attributes. -/
def display : Value → String
  | .text s => s
  | .entity _ attributes => " ".intercalate (writtenAttributes attributes)
  | v => v.written

/-- The text of a list of texts. -/
def writtenTexts (texts : List String) : String :=
  (Value.list (texts.map Value.text)).written

@[simp] theorem display_text (s : String) : (Value.text s).display = s := rfl

end Value

end GraphMapper
