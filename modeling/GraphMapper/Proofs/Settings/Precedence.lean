import GraphMapper.Proofs.Settings.LetterCase

/-!
# Where settings are taken from

A setting is taken from what the caller gives, else from the environment, else it has its default.
This file says so without a look at how options are searched for.

There are two ways to give options (`GraphMapper.Settings.Given`): as a section of a configuration,
whose keys stand for names in a way of their own, and as arguments, whose names count without their
letter case. In both, options have names, and if these are pairwise different
(`GraphMapper.Settings.Regular`) the order of the options makes no difference.

* `GraphMapper.Settings.Chosen`: the value that is chosen for a setting.
* `GraphMapper.Settings.Taken`: the settings that take these values.
* `GraphMapper.Settings.complaints`: what is wrong with them, one setting after the other.

A value that is chosen is read or refused, whatever there is below: null and what cannot be read do
not make way for the environment.
-/

namespace GraphMapper

/-! ### Refusals that list issues -/

namespace Checked

variable {α β : Type}

/-- The issues of a refusal. -/
def found : Checked α → List Issue
  | .error (.issues issues) => issues
  | _ => []

/-- An outcome that is no refusal, or one for some issues. -/
inductive Telling : Checked α → Prop where
  /-- Something was read. -/
  | read (a : α) : Telling (.ok a)
  /-- It was refused for some issues. -/
  | refused (first : Issue) (rest : List Issue) : Telling (.error (.issues (first :: rest)))

namespace Telling

theorem complain (c : Complaint) : Telling (Checked.complain c : Checked α) := .refused _ _

theorem ofOption (c : Complaint) (a? : Option α) : Telling (Checked.ofOption c a?) := by
  cases a? with
  | none => exact .complain c
  | some a => exact .read a

theorem under {c : Checked α} (h : Telling c) (step : Step) : Telling (c.under step) := by
  cases h with
  | read a => exact .read a
  | refused first rest => exact .refused _ _

theorem map {c : Checked α} (h : Telling c) (f : α → β) : Telling (c.map f : Checked β) := by
  cases h with
  | read a => exact .read (f a)
  | refused first rest => exact .refused first rest

theorem bind {c : Checked α} {f : α → Checked β} (h : Telling c) (hf : ∀ a, Telling (f a)) :
    Telling (c >>= f) := by
  cases h with
  | read a => exact hf a
  | refused first rest => exact .refused first rest

theorem both {c : Checked α} {d : Checked β} (hc : Telling c) (hd : Telling d) :
    Telling (Checked.both c d) := by
  cases hc <;> cases hd
  · exact .read _
  all_goals exact .refused _ _

/-- An outcome that tells its issues is a refusal exactly if there are some. -/
theorem eq_error_iff {c : Checked α} (h : Telling c) {r : Refusal} :
    c = .error r ↔ c.found ≠ [] ∧ r = .issues c.found := by
  cases h with
  | read a => exact ⟨nofun, fun none => absurd rfl none.1⟩
  | refused first rest =>
    refine ⟨fun he => ⟨List.cons_ne_nil _ _, (Except.error.inj he).symm⟩, fun he => ?_⟩
    rw [he.2]
    rfl

end Telling

/-- An outcome and the issues it tells. -/
def Tells (c : Checked α) (issues : List Issue) : Prop := c.Telling ∧ c.found = issues

theorem Tells.map {c : Checked α} {issues : List Issue} (h : c.Tells issues) (f : α → β) :
    Tells (c.map f : Checked β) issues := by
  obtain ⟨telling, rfl⟩ := h
  refine ⟨telling.map f, ?_⟩
  cases telling <;> rfl

/-- Two outcomes together tell the issues of both. -/
theorem Tells.both {c : Checked α} {d : Checked β} {issues others : List Issue}
    (hc : c.Tells issues) (hd : d.Tells others) : (both c d).Tells (issues ++ others) := by
  obtain ⟨hc, rfl⟩ := hc
  obtain ⟨hd, rfl⟩ := hd
  refine ⟨hc.both hd, ?_⟩
  cases hc <;> cases hd <;> simp [Checked.both, found, Refusal.and]

end Checked

namespace Settings

open Checked

/-! ### What comes of the values that are chosen -/

/-- A setting takes the value that is read from the one chosen for it, and its default if none is.
-/
inductive Takes {α : Type} (read : Value → Checked α) (standard : α) :
    Option Value → α → Prop where
  /-- What is read from the value that is chosen. -/
  | chosen {v : Value} {a : α} (h : read v = .ok a) : Takes read standard (some v) a
  /-- The default. -/
  | standard : Takes read standard none standard

/-- Settings that take the values chosen for them. -/
@[mk_iff]
structure Taken (chosen : String → Option Value) (s : Settings) : Prop where
  /-- The address is a text. -/
  uri : Takes Value.readText "bolt://localhost:7687" (chosen "uri") s.uri
  /-- The user name is a text or null. -/
  username : Takes readOptionalText none (chosen "username") s.username
  /-- The password is a text or null. -/
  password : Takes readOptionalText none (chosen "password") s.password
  /-- The database is a text. -/
  database : Takes Value.readText "neo4j" (chosen "database") s.database
  /-- Hyphens are a matter of a truth value. -/
  stripHyphens : Takes Value.readTruth false (chosen "strip_hyphens") s.stripHyphens
  /-- The time to wait is a float above zero. -/
  connectionTimeout :
    Takes readPositiveFloat 30.0 (chosen "connection_timeout") s.connectionTimeout
  /-- The time to keep is an integer above zero. -/
  maxConnectionLifetime :
    Takes readPositiveInteger 3600 (chosen "max_connection_lifetime") s.maxConnectionLifetime

/-- What is wrong with the value chosen for a setting, under the name of the setting. -/
def complaintsAt {α : Type} (chosen : String → Option Value) (read : Value → Checked α)
    (name : String) : List Issue :=
  ((chosen name).elim [] fun v => (read v).found).map (Issue.under (.key name))

/-- What is wrong with the values chosen for all settings, in order. -/
def complaints (chosen : String → Option Value) : List Issue :=
  complaintsAt chosen Value.readText "uri" ++ (complaintsAt chosen readOptionalText "username" ++
    (complaintsAt chosen readOptionalText "password" ++
      (complaintsAt chosen Value.readText "database" ++
        (complaintsAt chosen Value.readTruth "strip_hyphens" ++
          (complaintsAt chosen readPositiveFloat "connection_timeout" ++
            complaintsAt chosen readPositiveInteger "max_connection_lifetime")))))

section Setting

variable {α : Type} {source : String → Option Value} {name : String} {standard : α}
  {read : Value → Checked α}

theorem setting_eq_ok_iff {a : α} :
    setting source name standard read = .ok a ↔ Takes read standard (source name) a := by
  unfold setting
  cases source name with
  | none =>
    refine ⟨fun h => ?_, fun h => ?_⟩
    · exact Except.ok.inj h ▸ .standard
    · cases h
      rfl
  | some v =>
    rw [under_eq_ok_iff]
    refine ⟨.chosen, fun h => ?_⟩
    cases h with
    | chosen h => exact h

theorem tells_setting (h : ∀ v, (read v).Telling) :
    (setting source name standard read).Tells (complaintsAt source read name) := by
  unfold setting complaintsAt
  cases source name with
  | none => exact ⟨.read standard, rfl⟩
  | some v =>
    refine ⟨(h v).under (.key name), ?_⟩
    rcases hv : read v with (_ | _) | _ <;> simp [hv, found, Refusal.under]

end Setting

theorem telling_readText (v : Value) : v.readText.Telling := by
  cases v <;> first | exact .read _ | exact .complain _

theorem telling_readOptionalText (v : Value) : (readOptionalText v).Telling := by
  unfold readOptionalText
  split
  · exact .read none
  · exact (telling_readText v).map some

theorem telling_readTruth (v : Value) : v.readTruth.Telling := by
  have flag (i : Int) : (Value.readFlag i).Telling := by
    unfold Value.readFlag
    split_ifs <;> first | exact .read _ | exact .complain _
  cases v with
  | bool b => exact .read b
  | int i =>
    rw [Value.readTruth]
    split_ifs
    · exact flag i
    · exact .complain _
  | float x =>
    rw [Value.readTruth]
    split
    · split_ifs
      · exact flag _
      · exact .complain _
    · exact .complain _
  | text s =>
    rw [Value.readTruth, Value.readWord]
    split_ifs <;> first | exact .read _ | exact .complain _
  | _ => exact .complain _

theorem telling_readPositiveFloat (v : Value) : (readPositiveFloat v).Telling := by
  refine .bind ?_ fun x => ?_
  · cases v <;> first | exact .read _ | exact .ofOption _ _ | exact .complain _
  · unfold Bounds.checkFloat
    split_ifs <;> first | exact .read _ | exact .complain _

theorem telling_readPositiveInteger (v : Value) : (readPositiveInteger v).Telling := by
  refine .bind ?_ fun i => ?_
  · cases v with
    | float x =>
      rw [Value.readInteger, Value.readWholeFloat]
      split
      · exact .complain _
      · split
        · exact .complain _
        · split_ifs <;> first | exact .read _ | exact .complain _
    | text s =>
      rw [Value.readInteger, Value.readNumeral]
      split <;> first | exact .read _ | exact .complain _
    | int i => exact .read i
    | bool b => exact .read _
    | _ => exact .complain _
  · unfold Bounds.checkInteger
    split_ifs <;> first | exact .read _ | exact .complain _

/-- **Settings take the values chosen for them.** -/
theorem ofSource_eq_ok_iff {source : String → Option Value} {s : Settings} :
    ofSource source = .ok s ↔ Taken source s := by
  rw [taken_iff]
  simp only [← setting_eq_ok_iff]
  rw [ofSource, Outcome.map_eq_ok]
  simp only [both_eq_ok_iff]
  constructor
  · rintro ⟨⟨_, _, _, _, _, _, _⟩, h, rfl⟩
    exact h
  · exact fun h => ⟨(_, _, _, _, _, _, _), h, rfl⟩

/-- **Otherwise they are refused**, with everything that is wrong. -/
theorem ofSource_eq_error_iff {source : String → Option Value} {r : Refusal} :
    ofSource source = .error r ↔ complaints source ≠ [] ∧ r = .issues (complaints source) := by
  have tells : (ofSource source).Tells (complaints source) := by
    refine .map ?_ _
    exact (tells_setting telling_readText).both <|
      (tells_setting telling_readOptionalText).both <|
      (tells_setting telling_readOptionalText).both <|
      (tells_setting telling_readText).both <|
      (tells_setting telling_readTruth).both <|
      (tells_setting telling_readPositiveFloat).both <|
      tells_setting telling_readPositiveInteger
  rw [tells.1.eq_error_iff, tells.2]

/-! ### The value that is chosen -/

/-- What stands in front of the names of settings in the environment, in small letters. -/
def leadInSmall : String := "neoclient_"

/-- The value that is chosen for a setting: what the caller gives under its name, else what the
environment says last, whatever the letter case of the name there, else none. -/
inductive Chosen (named : List (String × Value)) (environment : List (String × String))
    (name : String) : Option Value → Prop where
  /-- What the caller gives. -/
  | given {v : Value} (h : (name, v) ∈ named) : Chosen named environment name (some v)
  /-- What the environment says last. -/
  | environment {before after : List (String × String)} {key text : String}
    (missing : name ∉ Assoc.keys named) (said : environment = before ++ (key, text) :: after)
    (same : Text.lowercase key = leadInSmall ++ name)
    (last : ∀ e ∈ after, Text.lowercase e.1 ≠ leadInSmall ++ name) :
    Chosen named environment name (some (.text text))
  /-- Nothing. -/
  | standard (missing : name ∉ Assoc.keys named)
    (unsaid : ∀ e ∈ environment, Text.lowercase e.1 ≠ leadInSmall ++ name) :
    Chosen named environment name none

/-- Names of options that are pairwise different, of which none starts with an underscore. -/
structure Regular (named : List (String × Value)) : Prop where
  /-- They are pairwise different. -/
  distinct : (Assoc.keys named).Nodup
  /-- None starts with an underscore. -/
  plain : ∀ name ∈ Assoc.keys named, name.toList.head? ≠ some '_'

/-- The two ways to give options, with the names that they have and the settings that are made. -/
inductive Given : List (String × Value) →
    (List (String × String) → Except Failure Settings) → Prop where
  /-- As a section of a configuration, whose keys stand for names. -/
  | mapping {config sectionName : Value} {given : List (String × Value)}
    (h : sectionEntries config sectionName = .ok (Value.ofNames given)) :
    Given (given.map fun e => (OptionName.resolved e.1, e.2)) (ofMapping config sectionName)
  /-- As arguments, whose names count without their letter case. -/
  | arguments (given : List (String × Value)) :
    Given (given.map fun e => (Text.lowercase e.1, e.2)) (ofOptions given)

/-- The options that are for settings. -/
def forSettings (named : List (String × Value)) : List (String × Value) :=
  named.filter fun e => settingNames.contains e.1

/-- Names of settings are in small letters, also with what stands in front of them. -/
theorem lowercase_settingName {name : String} (hn : name ∈ settingNames) :
    Text.lowercase name = name ∧
      Text.lowercase ("NEOCLIENT_" ++ name) = leadInSmall ++ name := by
  have all : (settingNames.all fun name => Text.lowercase name == name &&
      Text.lowercase ("NEOCLIENT_" ++ name) == leadInSmall ++ name) = true := by
    decide +kernel
  simpa using List.all_eq_true.mp all name hn

/-- Names of options that say how the environment is read start with an underscore, and are in small
letters. -/
theorem lowercase_styleName {name : String} (hn : name ∈ styleNames) :
    Text.lowercase name = name ∧ name.toList.head? = some '_' := by
  have all : (styleNames.all fun name => Text.lowercase name == name &&
      name.toList.head? == some '_') = true := by
    decide +kernel
  simpa using List.all_eq_true.mp all name hn

/-- Without a caller's option, the environment is asked. -/
theorem chosen_environment {named : List (String × Value)} {name : String}
    (hn : name ∈ settingNames) (missing : name ∉ Assoc.keys named)
    (environment : List (String × String)) :
    Chosen named environment name (option? {} [] environment name) := by
  have texts : EnvironmentStyle.options {} environment =
      environment.map fun e => (e.1, Value.text e.2) := by
    rw [EnvironmentStyle.options, ← List.filterMap_eq_map]
    rfl
  have searched : option? {} [] environment name =
      (environment.reverse.find? fun e => Text.lowercase e.1 == leadInSmall ++ name).map
        fun e => Value.text e.2 := by
    rw [option?, List.reverse_nil, List.find?_nil, texts, ← List.map_reverse, List.find?_map,
      ← (lowercase_settingName hn).2, Option.map_map]
    rfl
  rw [searched]
  cases said : environment.reverse.find? fun e => Text.lowercase e.1 == leadInSmall ++ name with
  | none =>
    refine .standard missing fun e he => ?_
    simpa using List.find?_eq_none.mp said e (List.mem_reverse.mpr he)
  | some e =>
    obtain ⟨same, after, before, split, last⟩ := List.find?_eq_some_iff_append.mp said
    have said : environment = before.reverse ++ (e.1, e.2) :: after.reverse := by
      rw [← List.reverse_reverse environment, split]
      simp
    refine .environment missing said (by simpa using same) fun e he => ?_
    simpa using last e (List.mem_reverse.mp he)

/-- The value found for a setting: what the caller gives, else what the environment says. -/
def foundFor (named : List (String × Value)) (environment : List (String × String))
    (name : String) : Option Value :=
  (named.lookup name).or (option? {} [] environment name)

/-- **What is found is chosen.** -/
theorem chosen_foundFor (named : List (String × Value)) (environment : List (String × String))
    {name : String} (hn : name ∈ settingNames) :
    Chosen named environment name (foundFor named environment name) := by
  unfold foundFor
  cases found : named.lookup name with
  | some v => exact .given (Assoc.mem_of_lookup found)
  | none => exact chosen_environment hn (Assoc.lookup_eq_none_iff.mp found) environment

section Given

variable {named named' : List (String × Value)}
  {outcome outcome' : List (String × String) → Except Failure Settings}

/-- **Regular options make settings of what is found under the names of these**, else in the
environment. -/
theorem Given.outcome_eq (h : Given named outcome) (regular : Regular named)
    (environment : List (String × String)) :
    outcome environment = (ofSource (foundFor named environment)).mapError Refusal.toFailure := by
  -- Nothing is said about how the environment is read.
  have style {given : List (String × Value)}
      (plain : ∀ name ∈ styleNames, name ∉ Assoc.keys given) :
      EnvironmentStyle.ofOptions given = .ok {} := by
    have silent (name) (hn : name ∈ styleNames) : given.lookup name = [].lookup name :=
      Assoc.lookup_eq_none_iff.mpr (plain name hn)
    exact (ofStyle_congr silent).trans rfl
  have last := Assoc.lookup_reverse_of_nodup regular.distinct
  cases h with
  | @mapping config sectionName given h =>
    rw [ofMapping_eq h, resolvedEntries, Assoc.ofEntries_of_nodup regular.distinct, ofOptions,
      style fun name hn hk => regular.plain name hk (lowercase_styleName hn).2, Outcome.ok_bind]
    refine congrArg _ (ofSource_congr fun name hn => ?_)
    have resolved := resolved_resolvedEntries given
    rw [resolvedEntries, Assoc.ofEntries_of_nodup regular.distinct] at resolved
    rw [option?_eq resolved environment hn, last, foundFor]
  | arguments given =>
    have plain : ∀ name ∈ styleNames, name ∉ Assoc.keys given := by
      intro name hn hk
      obtain ⟨small, underscore⟩ := lowercase_styleName hn
      refine regular.plain name ?_ underscore
      obtain ⟨e, he, rfl⟩ := List.mem_map.mp hk
      rw [Assoc.keys, List.map_map]
      exact List.mem_map.mpr ⟨e, he, small⟩
    rw [ofOptions, style plain, Outcome.ok_bind]
    refine congrArg _ (ofSource_congr fun name hn => ?_)
    have same : ∀ key ∈ Assoc.keys given, EnvironmentStyle.sameName {} key name = true ↔
        Text.lowercase key = name := by
      intro key _
      have small := (lowercase_settingName hn).1
      simp [EnvironmentStyle.sameName, small]
    rw [option?_eq_of_same Text.lowercase same environment, last, foundFor]

/-- Options for settings are found among them. -/
theorem lookup_forSettings {name : String} (hn : name ∈ settingNames) :
    (forSettings named).lookup name = named.lookup name := by
  unfold forSettings
  induction named with
  | nil => rfl
  | cons e rest ih =>
    rw [List.filter_cons, List.lookup_cons, ← ih]
    by_cases same : name = e.1
    · rw [if_pos (by simpa [same] using hn), List.lookup_cons, same, beq_self_eq_true]
    · rw [beq_false_of_ne same]
      split
      · rw [List.lookup_cons, beq_false_of_ne same]
      · rfl

/-- **Where settings are taken from.** However options are given, if their names are pairwise
different and none starts with an underscore: for each setting a value is chosen, that of the caller
if there is one, null included, else that of the environment, else none; and the settings take these
values, with their defaults for those that have none, or are refused for all that is wrong with
the values. And any other options that are the same for the settings, in whatever order and
whichever way, come to the same in every environment. -/
theorem Given.precedence (h : Given named outcome) (regular : Regular named) :
    (∀ environment, ∃ chosen,
      (∀ name ∈ settingNames, Chosen named environment name (chosen name)) ∧
      (∀ s, outcome environment = .ok s ↔ Taken chosen s) ∧
      ∀ e, outcome environment = .error e ↔
        complaints chosen ≠ [] ∧ e = .validation (complaints chosen)) ∧
    ∀ named' outcome', Given named' outcome' → Regular named' →
      (forSettings named).Perm (forSettings named') →
        ∀ environment, outcome environment = outcome' environment := by
  refine ⟨fun environment => ⟨foundFor named environment,
    fun name hn => chosen_foundFor named environment hn, fun s => ?_, fun e => ?_⟩, ?_⟩
  · rw [h.outcome_eq regular, Outcome.mapError_eq_ok, ofSource_eq_ok_iff]
  · rw [h.outcome_eq regular, Outcome.mapError_eq_error]
    simp only [ofSource_eq_error_iff]
    constructor
    · rintro ⟨_, ⟨wrong, rfl⟩, rfl⟩
      exact ⟨wrong, rfl⟩
    · rintro ⟨wrong, rfl⟩
      exact ⟨_, ⟨wrong, rfl⟩, rfl⟩
  · intro named' outcome' h' regular' perm environment
    rw [h.outcome_eq regular, h'.outcome_eq regular']
    refine congrArg _ (ofSource_congr fun name hn => ?_)
    have distinct : (Assoc.keys (forSettings named)).Nodup :=
      regular.distinct.sublist (List.filter_sublist.map Prod.fst)
    rw [foundFor, foundFor, ← lookup_forSettings hn, Assoc.lookup_of_perm distinct perm,
      lookup_forSettings hn]

/-- A section that gives an address, and null for the user name, among things that are for no
setting, comes to the same as two arguments. What the environment says about the user name does not
count then. -/
theorem Given.precedence_address :
    (∀ environment, ofMapping (.map [(.text "NeoClient", .map [(.text "Uri", .text "bolt://db"),
        (.text "Colour", .int 5), (.text "userName", .null)])]) (.text "NeoClient") environment =
      ofOptions [("USERNAME", .null), ("uri", .text "bolt://db")] environment) ∧
    (ofOptions [("USERNAME", .null), ("uri", .text "bolt://db")]
      [("NEOCLIENT_USERNAME", "neo4j"), ("NeoClient_Database", "movies")]).toOption.map
        (fun s => (s.uri, s.username, s.database)) = some ("bolt://db", none, "movies") := by
  have keys : OptionName.resolved "Uri" = "uri" ∧ OptionName.resolved "Colour" = "colour" ∧
      OptionName.resolved "userName" = "username" ∧ Text.lowercase "USERNAME" = "username" ∧
      Text.lowercase "uri" = "uri" := by
    decide +kernel
  have found : sectionEntries (.map [(.text "NeoClient", .map [(.text "Uri", .text "bolt://db"),
      (.text "Colour", .int 5), (.text "userName", .null)])]) (.text "NeoClient") =
        .ok (Value.ofNames [("Uri", .text "bolt://db"), ("Colour", .int 5), ("userName", .null)]) :=
    rfl
  have entries := Given.mapping found
  have named := Given.arguments [("USERNAME", .null), ("uri", .text "bolt://db")]
  simp only [List.map_cons, List.map_nil, keys] at entries named
  refine ⟨(entries.precedence ⟨by decide, by decide⟩).2 _ _ named ⟨by decide, by decide⟩ ?_,
    by decide +kernel⟩
  simpa [forSettings, settingNames] using List.Perm.swap _ _ _

end Given

end Settings

end GraphMapper
