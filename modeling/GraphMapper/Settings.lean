import GraphMapper.Settings.OptionName
import GraphMapper.Text.Blank
import GraphMapper.Validation.Bounds

/-!
# Settings

Where the database is and how to reach it. Each setting is taken from the options given by
the caller, else from the environment, else it has its default. Options may also be read
from a configuration that holds them in a section of their own. Some options are for no
setting, but say how the environment is read.

A user name and a password together make the credentials; if either is blank, there are
none.
-/

namespace GraphMapper

open Checked

/-- The settings of a client. -/
structure Settings where
  /-- The address of the database. -/
  uri : String
  /-- The user name. -/
  username : Option String
  /-- The password. -/
  password : Option String
  /-- The database of a session that names none. -/
  database : String
  /-- Whether identifiers are written without hyphens. -/
  stripHyphens : Bool
  /-- How many seconds to wait for a connection. -/
  connectionTimeout : Float
  /-- How many seconds a connection is kept. -/
  maxConnectionLifetime : Int

/-- A user name and a password, if neither is blank. -/
def credentials (username password : Option String) : Option (String × String) :=
  match username, password with
  | some u, some p => if Text.isBlank u || Text.isBlank p then none else some (u, p)
  | _, _ => none

/-- There are credentials exactly if both parts are there and not blank, and then they are
these parts, unchanged. -/
theorem credentials_eq_some_iff {username password : Option String} {u p : String} :
    credentials username password = some (u, p) ↔
      username = some u ∧ password = some p ∧ Text.isBlank u = false ∧ Text.isBlank p = false := by
  unfold credentials
  cases username <;> cases password <;> simp
  case some.some a b => grind

namespace Settings

/-- The credentials. -/
def auth (s : Settings) : Option (String × String) := credentials s.username s.password

/-- The options that the settings pass on to the database driver. -/
def driverConfig (s : Settings) : List (String × Value) :=
  [("connection_timeout", .float s.connectionTimeout),
    ("max_connection_lifetime", .int s.maxConnectionLifetime)]

/-! ### Reading -/

/-- How the environment is read. -/
structure EnvironmentStyle where
  /-- What stands in front of the names of settings. -/
  lead : String := "NEOCLIENT_"
  /-- Whether the letter case of names counts. -/
  caseCounts : Bool := false
  /-- Whether empty texts are left out. -/
  leavesEmptyOut : Bool := false
  /-- The text that stands for null, if there is one. -/
  nullWord : Option String := none

namespace EnvironmentStyle

/-- The way of reading the environment that options ask for. What stands in front of names
has to be a text. -/
def ofOptions (given : List (String × Value)) : Except Failure EnvironmentStyle := do
  let option (name : String) : Value := (given.lookup name).getD .null
  let standard : EnvironmentStyle := {}
  let lead ← match option "_env_prefix" with
    | .null => pure standard.lead
    | .text s => pure s
    | _ => throw (.misuse .wrongKind)
  pure {
    lead
    caseCounts := (option "_case_sensitive").truthy
    leavesEmptyOut := (option "_env_ignore_empty").truthy
    nullWord := (option "_env_parse_none_str").text? }

/-- Whether two names are the same. -/
def sameName (style : EnvironmentStyle) (a b : String) : Bool :=
  if style.caseCounts then a == b else Text.lowercase a == Text.lowercase b

/-- The value that a text of the environment stands for, none if it is left out. -/
def value? (style : EnvironmentStyle) (s : String) : Option Value :=
  if style.leavesEmptyOut && s = "" then none
  else if style.nullWord = some s then some .null
  else some (.text s)

/-- The environment as options, in order. -/
def options (style : EnvironmentStyle) (environment : List (String × String)) :
    List (String × Value) :=
  environment.filterMap fun e => (style.value? e.2).map fun v => (e.1, v)

end EnvironmentStyle

/-- An option for a setting of some name: the last one that the caller gives, else the last
one in the environment, where names have something in front. -/
def option? (style : EnvironmentStyle) (given : List (String × Value))
    (environment : List (String × String)) (name : String) : Option Value :=
  match given.reverse.find? fun e => style.sameName e.1 name with
  | some e => some e.2
  | none =>
    ((style.options environment).reverse.find? fun e => style.sameName e.1 (style.lead ++ name)).map
      Prod.snd

/-- A setting, read from its option if there is one. -/
def setting {α : Type} (source : String → Option Value) (name : String) (standard : α)
    (read : Value → Checked α) : Checked α :=
  match source name with
  | some v => (read v).under (.key name)
  | none => .ok standard

/-- A text or null. -/
def readOptionalText : Value → Checked (Option String)
  | .null => .ok none
  | v => v.readText.map some

/-- The bounds of a number that has to be above zero. -/
def positive : Bounds := { above := some (.ofInt 0) }

/-- A float above zero. -/
def readPositiveFloat (v : Value) : Checked Float := v.readFloat >>= positive.checkFloat

/-- An integer above zero. -/
def readPositiveInteger (v : Value) : Checked Int := v.readInteger >>= positive.checkInteger

/-- The settings read from options. -/
def ofSource (source : String → Option Value) : Checked Settings :=
  (both (setting source "uri" "bolt://localhost:7687" Value.readText) <|
    both (setting source "username" none readOptionalText) <|
    both (setting source "password" none readOptionalText) <|
    both (setting source "database" "neo4j" Value.readText) <|
    both (setting source "strip_hyphens" false Value.readTruth) <|
    both (setting source "connection_timeout" 30.0 readPositiveFloat) <|
    setting source "max_connection_lifetime" 3600 readPositiveInteger).map
  fun (uri, username, password, database, stripHyphens, timeout, lifetime) =>
    ⟨uri, username, password, database, stripHyphens, timeout, lifetime⟩

/-- The settings made from given options and the environment. -/
def ofOptions (given : List (String × Value)) (environment : List (String × String)) :
    Except Failure Settings := do
  let style ← EnvironmentStyle.ofOptions given
  (ofSource (option? style given environment)).mapError Refusal.toFailure

/-! ### Configurations -/

/-- The section of a configuration that is meant for the client. -/
def defaultSection : String := "NeoClient"

/-- A section of a configuration, without entries if it is not there; without the name of a
section, the configuration itself. -/
def sectionOf (config sectionName : Value) : Except Failure Value :=
  if !sectionName.truthy then .ok config
  else match config.mapping? with
    | none => .error (.misuse .missingFeature)
    | some entries =>
      if sectionName.isKey then .ok ((entries.lookup sectionName).getD (.map []))
      else .error (.misuse .wrongKind)

/-- The entries of a section of a configuration. -/
def sectionEntries (config sectionName : Value) : Except Failure Entries := do
  let options ← sectionOf config sectionName
  match options.entries? with
  | some entries => pure entries
  | none => throw (.misuse .missingFeature)

/-- An entry of a configuration as an option; its key has to be a text. -/
def optionOfEntry (e : Value × Value) : Except Failure (String × Value) :=
  match e.1 with
  | .text key => .ok (OptionName.resolved key, e.2)
  | _ => .error (.misuse .wrongKind)

/-- The settings made from a configuration and the environment. -/
def ofMapping (config sectionName : Value) (environment : List (String × String)) :
    Except Failure Settings := do
  let entries ← sectionEntries config sectionName
  let options ← entries.mapM optionOfEntry
  ofOptions (Assoc.ofEntries options) environment

end Settings

end GraphMapper
