import GraphMapper.Client
import Mathlib.Data.List.Basic

/-!
# Credentials

Whether there are credentials is decided twice: by the settings, from a user name and a password
that may be missing, and once more by the client, from the two values that it is handed. In both a
part counts for nothing if it is blank, and credentials that lack a part are none. This file shows
that the second decision changes nothing.

* `GraphMapper.Client.credentialsOf_handed`: the client decides about two parts as the settings do.
* `GraphMapper.Client.credentials_of_credentials`: what has been decided once is decided alike
  again.

So it makes no difference whether a client is made from settings or from their parts.
-/

namespace GraphMapper

/-- A text is not blank if one of its characters is neither white space nor a separator. -/
theorem Text.isBlank_eq_false_iff {s : String} :
    Text.isBlank s = false ↔ ∃ c ∈ s.toList, Text.isBlankChar c = false := by
  simp [Text.isBlank]

/-- There are no credentials exactly if a part is missing or blank. -/
theorem credentials_eq_none_iff {username password : Option String} :
    credentials username password = none ↔
      username.all Text.isBlank = true ∨ password.all Text.isBlank = true := by
  unfold credentials
  cases username <;> cases password <;> simp
  case some.some u p => cases Text.isBlank u <;> simp

namespace Client

/-- A part of credentials as it is handed to a client: a text, or null if it is missing. -/
def handed (part : Option String) : Value := (part.map Value.text).getD .null

theorem text?_handed (part : Option String) : (handed part).text? = part := by
  cases part <;> rfl

/-- A part is missing if it is not there, and if it is blank. -/
theorem isMissing_handed (part : Option String) :
    isMissing (handed part) = .ok (part.all Text.isBlank) := by
  cases part <;> rfl

/-- **The client decides as the settings do**, about any two parts. -/
theorem credentialsOf_handed (username password : Option String) :
    credentialsOf (handed username) (handed password) = .ok (credentials username password) := by
  rw [credentialsOf, isMissing_handed, isMissing_handed, text?_handed, text?_handed]
  cases hu : username.all Text.isBlank with
  | true =>
    rw [credentials_eq_none_iff.mpr (.inl hu)]
    rfl
  | false =>
    cases hp : password.all Text.isBlank with
    | true =>
      rw [credentials_eq_none_iff.mpr (.inr hp)]
      rfl
    | false => rfl

/-- **What has been decided once is decided alike again.** -/
theorem credentials_of_credentials (username password : Option String) :
    credentials ((credentials username password).map Prod.fst)
      ((credentials username password).map Prod.snd) = credentials username password := by
  cases decided : credentials username password with
  | none => rfl
  | some auth =>
    obtain ⟨-, -, hu, hp⟩ := credentials_eq_some_iff.mp decided
    exact credentials_eq_some_iff.mpr ⟨rfl, rfl, hu, hp⟩

/-- The engine made from an address and parts of credentials. -/
theorem engineFor_handed (uri : String) (username password : Option String) (database : Value)
    (config : List (String × Value)) :
    engineFor (.text uri) (handed username) (handed password) database config =
      if Text.isBlank uri then .error (.argument "uri" "A URI or an engine is required")
      else .ok (Engine.ofConfig (.text uri) (credentials username password) database config) := by
  rw [engineFor, isMissing, credentialsOf_handed]
  cases Text.isBlank uri <;> rfl

theorem engineOfSettings_eq_engineFor (s : Settings) :
    engineOfSettings s = engineFor (.text s.uri) (handed (s.auth.map Prod.fst))
      (handed (s.auth.map Prod.snd)) (.text s.database) s.driverConfig := by
  rw [engineOfSettings]
  cases s.auth <;> rfl

/-- **The engine made from settings.** Without an address there is none. With one, the engine has
the credentials of the settings, their database, and the standard options of a driver except for the
two times that the settings give. Credentials are there exactly if both parts are, and each shows a
character; then they are these parts, unchanged. And the engine is the one that a client makes from
the parts themselves. -/
theorem engineOfSettings_iff (s : Settings) :
    (engineOfSettings s =
      if Text.isBlank s.uri then .error (.argument "uri" "A URI or an engine is required")
      else .ok
        { connection := ⟨.text s.uri, s.auth,
            [("connection_timeout", .float s.connectionTimeout),
              ("max_connection_lifetime", .int s.maxConnectionLifetime),
              ("keep_alive", .bool true), ("user_agent", .text "NeoClient/0.1.0")]⟩
          database := .text s.database
          link := .down }) ∧
      (∀ u p, s.auth = some (u, p) ↔ s.username = some u ∧ s.password = some p ∧
        (∃ c ∈ u.toList, Text.isBlankChar c = false) ∧
        ∃ c ∈ p.toList, Text.isBlankChar c = false) ∧
      engineOfSettings s = engineFor (.text s.uri) (handed s.username) (handed s.password)
        (.text s.database) s.driverConfig := by
  have decided := credentials_of_credentials s.username s.password
  refine ⟨?_, fun u p => ?_, ?_⟩
  · rw [engineOfSettings_eq_engineFor, engineFor_handed, Settings.auth, decided]
    rfl
  · rw [Settings.auth, credentials_eq_some_iff, Text.isBlank_eq_false_iff,
      Text.isBlank_eq_false_iff]
  · rw [engineOfSettings_eq_engineFor, engineFor_handed, engineFor_handed, Settings.auth, decided]

/-- White space around a part stays, and a part of white space counts for nothing. -/
example : credentials (some " neo4j ") (some "pass word\n") = some (" neo4j ", "pass word\n") ∧
    credentials (some "neo4j") (some "\u2003\u3000") = none := by
  decide

end Client

end GraphMapper
