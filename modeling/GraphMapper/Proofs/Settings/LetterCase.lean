import GraphMapper.Proofs.Assoc
import GraphMapper.Proofs.Clause
import GraphMapper.Proofs.Outcome
import GraphMapper.Proofs.Settings.OptionNames
import GraphMapper.Settings

/-!
# Letter case in configurations

A configuration may write the names of options in several ways. This file says which ways are the
same. Options are looked up by the names of settings, and by a few names that say how the
environment is read (`GraphMapper.Settings.optionNames`); a key that stands for none of them is
passed over. So two keys are **alike** if they stand for the same name, or each for none that is
looked up.

* `GraphMapper.Settings.ofOptions_congr`: settings depend on what is found under these names, and on
  nothing else.
* `GraphMapper.Settings.exists_probe`: and they do depend on each.
-/

namespace GraphMapper.Settings

/-! ### What is looked up -/

/-- The names of the settings. -/
def settingNames : List String :=
  ["uri", "username", "password", "database", "strip_hyphens", "connection_timeout",
    "max_connection_lifetime"]

/-- The names of the options that say how the environment is read. -/
def styleNames : List String :=
  ["_env_prefix", "_case_sensitive", "_env_ignore_empty", "_env_parse_none_str"]

/-- The names under which options are looked up. -/
def optionNames : List String := settingNames ++ styleNames

/-- Options under names that keys of a configuration stand for. -/
def Resolved (given : List (String × Value)) : Prop :=
  ∀ name ∈ Assoc.keys given, ∃ key, name = OptionName.resolved key

theorem sameName_resolved_iff {style : EnvironmentStyle} {key name : String}
    (hn : name ∈ settingNames) :
    style.sameName (OptionName.resolved key) name = true ↔ OptionName.resolved key = name := by
  have names : (settingNames.all fun name =>
      Text.lowercase name == name && name.toList.all (·.toNat < 128)) = true := by
    decide +kernel
  have accepted := List.all_eq_true.mp names name hn
  obtain ⟨small, ascii⟩ : Text.lowercase name = name ∧ ∀ c ∈ name.toList, c.toNat < 128 := by
    simpa using accepted
  unfold EnvironmentStyle.sameName
  split
  · exact beq_iff_eq
  · rw [beq_iff_eq, small]
    refine ⟨fun h => OptionName.eq_of_lowercase_resolved h ascii, fun h => ?_⟩
    rw [h, small]

/-- The caller's option for a setting is the last one that counts as one of its name; without one,
the environment is asked. -/
theorem option?_eq_of_same {style : EnvironmentStyle} {given : List (String × Value)}
    {name : String} (counted : String → String)
    (same : ∀ key ∈ Assoc.keys given, style.sameName key name = true ↔ counted key = name)
    (environment : List (String × String)) :
    option? style given environment name =
      ((given.map fun e => (counted e.1, e.2)).reverse.lookup name).or
        (option? style [] environment name) := by
  have found (entries : List (String × Value))
      (same : ∀ key ∈ Assoc.keys entries, style.sameName key name = true ↔ counted key = name) :
      (entries.find? fun e => style.sameName e.1 name).map Prod.snd =
        (entries.map fun e => (counted e.1, e.2)).lookup name := by
    induction entries with
    | nil => rfl
    | cons e rest ih =>
      obtain ⟨first, others⟩ := List.forall_mem_cons.mp same
      have first : style.sameName e.1 name = (name == counted e.1) := by
        rw [Bool.eq_iff_iff, first, beq_iff_eq, eq_comm]
      rw [List.find?_cons, List.map_cons, List.lookup_cons, first]
      cases name == counted e.1
      · exact ih others
      · rfl
  have reversed : ∀ key ∈ Assoc.keys given.reverse,
      style.sameName key name = true ↔ counted key = name := by
    intro key hk
    exact same key (by simpa [Assoc.keys] using hk)
  rw [← List.map_reverse, ← found given.reverse reversed]
  unfold option?
  rw [List.reverse_nil, List.find?_nil]
  cases given.reverse.find? fun e => style.sameName e.1 name <;> rfl

/-- Options under names that keys stand for are looked up by these names. -/
theorem option?_eq {style : EnvironmentStyle} {given : List (String × Value)}
    (resolved : Resolved given) (environment : List (String × String)) {name : String}
    (hn : name ∈ settingNames) :
    option? style given environment name =
      (given.reverse.lookup name).or (option? style [] environment name) := by
  have same : ∀ key ∈ Assoc.keys given, style.sameName key name = true ↔ id key = name := by
    intro key hk
    obtain ⟨written, rfl⟩ := resolved key hk
    exact sameName_resolved_iff hn
  simpa using option?_eq_of_same id same environment

theorem ofSource_congr {source source' : String → Option Value}
    (h : ∀ name ∈ settingNames, source name = source' name) :
    ofSource source = ofSource source' := by
  simp only [settingNames, List.forall_mem_cons] at h
  simp only [ofSource, setting, h]

theorem ofStyle_congr {given given' : List (String × Value)}
    (h : ∀ name ∈ styleNames, given.lookup name = given'.lookup name) :
    EnvironmentStyle.ofOptions given = EnvironmentStyle.ofOptions given' := by
  simp only [styleNames, List.forall_mem_cons] at h
  simp only [EnvironmentStyle.ofOptions, h]

/-- What stands in front of the names of the environment is not refused like an option. -/
theorem misuse_of_ofStyle {given : List (String × Value)} {e : Failure}
    (h : EnvironmentStyle.ofOptions given = .error e) : e = .misuse .wrongKind := by
  unfold EnvironmentStyle.ofOptions at h
  dsimp only at h
  split at h
  · cases h
  · cases h
  · exact (Except.error.inj h).symm

/-- **Settings depend on the options under the names that are looked up**, and on nothing else. -/
theorem ofOptions_congr {given given' : List (String × Value)} (apart : (Assoc.keys given).Nodup)
    (apart' : (Assoc.keys given').Nodup) (resolved : Resolved given) (resolved' : Resolved given')
    (h : ∀ name ∈ optionNames, given.lookup name = given'.lookup name)
    (environment : List (String × String)) :
    ofOptions given environment = ofOptions given' environment := by
  have style := ofStyle_congr fun name hn => h name (List.mem_append_right _ hn)
  have source (style : EnvironmentStyle) : ofSource (option? style given environment) =
      ofSource (option? style given' environment) := by
    refine ofSource_congr fun name hn => ?_
    rw [option?_eq resolved environment hn, option?_eq resolved' environment hn,
      Assoc.lookup_reverse_of_nodup apart, Assoc.lookup_reverse_of_nodup apart',
      h name (List.mem_append_left _ hn)]
  simp only [ofOptions, style, source]

/-! ### Entries of a configuration -/

/-- The entries of a configuration, by what their keys stand for. -/
def resolvedEntries (given : List (String × Value)) : List (String × Value) :=
  given.map fun e => (OptionName.resolved e.1, e.2)

theorem resolved_resolvedEntries (given : List (String × Value)) :
    Resolved (Assoc.ofEntries (resolvedEntries given)) := by
  intro name hn
  rw [Assoc.mem_keys_ofEntries, resolvedEntries, Assoc.keys, List.map_map, List.mem_map] at hn
  obtain ⟨e, -, rfl⟩ := hn
  exact ⟨e.1, rfl⟩

/-- Settings are made of what the keys of a configuration stand for. -/
theorem ofMapping_eq {config sectionName : Value} {given : List (String × Value)}
    (h : sectionEntries config sectionName = .ok (Value.ofNames given))
    (environment : List (String × String)) :
    ofMapping config sectionName environment =
      ofOptions (Assoc.ofEntries (resolvedEntries given)) environment := by
  have options : (Value.ofNames given).mapM optionOfEntry = .ok (resolvedEntries given) := by
    rw [Outcome.mapM_eq_ok, Value.ofNames, resolvedEntries, List.forall₂_map_left_iff,
      List.forall₂_map_right_iff]
    exact List.forall₂_same.mpr fun e _ => rfl
  rw [ofMapping, h, Outcome.ok_bind, options, Outcome.ok_bind]

/-- Two keys that stand for the same option, or each for none that is looked up. -/
def Alike (key key' : String) : Prop :=
  OptionName.resolved key = OptionName.resolved key' ∨
    OptionName.resolved key ∉ optionNames ∧ OptionName.resolved key' ∉ optionNames

instance (key key' : String) : Decidable (Alike key key') :=
  inferInstanceAs (Decidable (_ ∨ _ ∧ _))

/-- **Keys that are alike make the same settings.** -/
theorem ofMapping_congr {config config' sectionName sectionName' : Value}
    {given given' : List (String × Value)}
    (h : sectionEntries config sectionName = .ok (Value.ofNames given))
    (h' : sectionEntries config' sectionName' = .ok (Value.ofNames given'))
    (alike : List.Forall₂ (fun e e' => Alike e.1 e'.1 ∧ e.2 = e'.2) given given')
    (environment : List (String × String)) :
    ofMapping config sectionName environment = ofMapping config' sectionName' environment := by
  have found {name : String} (hn : name ∈ optionNames) {given given' : List (String × Value)}
      (alike : List.Forall₂ (fun e e' => Alike e.1 e'.1 ∧ e.2 = e'.2) given given') :
      (resolvedEntries given).lookup name = (resolvedEntries given').lookup name := by
    induction alike with
    | nil => rfl
    | @cons e e' rest rest' he _ ih =>
      obtain ⟨key, value⟩ := he
      have same : (name == OptionName.resolved e.1) = (name == OptionName.resolved e'.1) := by
        rcases key with key | ⟨other, other'⟩
        · rw [key]
        · have hne : name ≠ OptionName.resolved e.1 := fun he => other (he ▸ hn)
          have hne' : name ≠ OptionName.resolved e'.1 := fun he => other' (he ▸ hn)
          rw [beq_false_of_ne hne, beq_false_of_ne hne']
      simp only [resolvedEntries, List.map_cons, List.lookup_cons, same, value] at ih ⊢
      rw [ih]
  rw [ofMapping_eq h, ofMapping_eq h']
  refine ofOptions_congr (Assoc.nodup_keys_ofEntries _) (Assoc.nodup_keys_ofEntries _)
    (resolved_resolvedEntries given) (resolved_resolvedEntries given') (fun name hn => ?_) _
  rw [Assoc.lookup_ofEntries, Assoc.lookup_ofEntries]
  simp only [resolvedEntries, ← List.map_reverse]
  exact found hn (List.forall₂_reverse_iff.mpr alike)

/-! ### Options that make a difference -/

/-- The address of the database, if there are any settings. -/
def uri? (settings : Except Failure Settings) : Option String := settings.toOption.map Settings.uri

/-- A list is no setting, and the name of the setting is in the complaint. -/
theorem ofOptions_list {name : String} (hn : name ∈ settingNames) : ∃ complaint,
    ofOptions [(name, .list [])] [] = .error (.validation [⟨[.key name], complaint⟩]) := by
  simp only [settingNames, List.mem_cons, List.not_mem_nil, or_false] at hn
  rcases hn with rfl | rfl | rfl | rfl | rfl | rfl | rfl <;> exact ⟨_, rfl⟩

/-- Of an option that is for no setting, no setting complains. -/
theorem ofOptions_list_ne {name : String} (hr : Resolved [(name, Value.list [])])
    (hn : name ∉ settingNames) (found : List Issue) :
    ofOptions [(name, .list [])] [] ≠ .error (.validation found) := by
  have nothing (style : EnvironmentStyle) :
      ofSource (option? style [(name, .list [])] []) = ofSource fun _ => none := by
    refine ofSource_congr fun other ho => ?_
    have apart : other ≠ name := fun he => hn (he ▸ ho)
    rw [option?_eq hr [] ho, List.reverse_singleton, List.lookup_cons, beq_false_of_ne apart]
    rfl
  simp only [ofOptions, nothing]
  cases style : EnvironmentStyle.ofOptions [(name, Value.list [])] with
  | ok style => exact nofun
  | error e =>
    rw [misuse_of_ofStyle style]
    exact nofun

/-- **Options that say how the environment is read are told apart**: in some environment, each makes
a difference, and a difference that no other makes. -/
theorem exists_styleProbe {name : String} (hn : name ∈ styleNames) :
    ∃ value environment, uri? (ofOptions [(name, value)] environment) ≠
        uri? (ofOptions [] environment) ∧
      ∀ other ∈ styleNames, other ≠ name →
        uri? (ofOptions [(name, value)] environment) ≠
          uri? (ofOptions [(other, value)] environment) := by
  simp only [styleNames, List.mem_cons, List.not_mem_nil, or_false] at hn
  rcases hn with rfl | rfl | rfl | rfl
  · exact ⟨.text "X_", [("X_URI", "x")], by decide +kernel⟩
  · exact ⟨.bool true, [("neoclient_uri", "x")], by decide +kernel⟩
  · exact ⟨.bool true, [("NEOCLIENT_uri", "")], by decide +kernel⟩
  · exact ⟨.text "x", [("NEOCLIENT_URI", "x")], by decide +kernel⟩

/-- **Every option that is looked up makes a difference**, and a difference that no option of
another name makes. -/
theorem exists_probe {key key' : String}
    (apart : OptionName.resolved key ≠ OptionName.resolved key')
    (known : OptionName.resolved key ∈ optionNames ∨ OptionName.resolved key' ∈ optionNames) :
    ∃ value environment, ofOptions [(OptionName.resolved key, value)] environment ≠
      ofOptions [(OptionName.resolved key', value)] environment := by
  have resolved (key : String) (value : Value) : Resolved [(OptionName.resolved key, value)] := by
    intro name hn
    exact ⟨key, List.mem_singleton.mp hn⟩
  -- A name of a setting on the first side is told apart by a list.
  have setting {key key' : String} (apart : OptionName.resolved key ≠ OptionName.resolved key')
      (hk : OptionName.resolved key ∈ settingNames) :
      ofOptions [(OptionName.resolved key, .list [])] [] ≠
        ofOptions [(OptionName.resolved key', .list [])] [] := by
    obtain ⟨complaint, hc⟩ := ofOptions_list hk
    by_cases hk' : OptionName.resolved key' ∈ settingNames
    · obtain ⟨complaint', hc'⟩ := ofOptions_list hk'
      rw [hc, hc']
      simpa using fun he => absurd he apart
    · rw [hc]
      exact (ofOptions_list_ne (resolved key' _) hk' _).symm
  have style {key key' : String} (apart : OptionName.resolved key ≠ OptionName.resolved key')
      (hk : OptionName.resolved key ∈ styleNames) (hk' : OptionName.resolved key' ∉ settingNames) :
      ∃ value environment, ofOptions [(OptionName.resolved key, value)] environment ≠
        ofOptions [(OptionName.resolved key', value)] environment := by
    obtain ⟨value, environment, missed, others⟩ := exists_styleProbe hk
    refine ⟨value, environment, fun he => ?_⟩
    by_cases other : OptionName.resolved key' ∈ styleNames
    · exact others _ other apart.symm (congrArg uri? he)
    · have unknown : ofOptions [(OptionName.resolved key', value)] environment =
          ofOptions [] environment := by
        refine ofOptions_congr (by simp [Assoc.keys]) (by simp [Assoc.keys]) (resolved key' value)
          (by simp [Resolved, Assoc.keys]) (fun name hn => ?_) environment
        have ne : name ≠ OptionName.resolved key' := by
          rintro rfl
          exact (List.mem_append.mp hn).elim hk' other
        rw [List.lookup_cons, beq_false_of_ne ne]
      exact missed (congrArg uri? (he.trans unknown))
  by_cases hk : OptionName.resolved key ∈ settingNames
  · exact ⟨_, _, setting apart hk⟩
  by_cases hk' : OptionName.resolved key' ∈ settingNames
  · exact ⟨_, _, (setting apart.symm hk').symm⟩
  rcases known with known | known
  · exact style apart ((List.mem_append.mp known).resolve_left hk) hk'
  · obtain ⟨value, environment, ne⟩ :=
      style apart.symm ((List.mem_append.mp known).resolve_left hk') hk
    exact ⟨value, environment, ne.symm⟩

/-! ### Other spellings of the keys -/

/-- A configuration with a single option. -/
def single (key : String) (value : Value) : Value := .map [(.text key, value)]

theorem sectionEntries_single (key : String) (value : Value) :
    sectionEntries (single key value) .null = .ok (Value.ofNames [(key, value)]) := rfl

theorem ofMapping_single (key : String) (value : Value) (environment : List (String × String)) :
    ofMapping (single key value) .null environment =
      ofOptions [(OptionName.resolved key, value)] environment :=
  ofMapping_eq (sectionEntries_single key value) environment

/-- Spellings whose words start at the same places are alike. -/
theorem alike_of_wordStarts {key key' : String} (recased : Recased key key')
    (starts : OptionName.wordStarts key = OptionName.wordStarts key') : Alike key key' := by
  refine .inl ?_
  simp only [OptionName.resolved, (OptionName.ofKey_eq_iff recased).mpr starts]

/-- A spelling that is not alike makes a difference. -/
theorem exists_ofMapping_ne {key key' : String} (apart : ¬ Alike key key') :
    ∃ value environment, ofMapping (single key value) .null environment ≠
      ofMapping (single key' value) .null environment := by
  obtain ⟨other, known⟩ := not_or.mp apart
  have looked : OptionName.resolved key ∈ optionNames ∨ OptionName.resolved key' ∈ optionNames := by
    by_contra unknown
    exact known (not_or.mp unknown)
  obtain ⟨value, environment, ne⟩ := exists_probe other looked
  exact ⟨value, environment, by rwa [ofMapping_single, ofMapping_single]⟩

/-- **Letter case, where it counts.** In a configuration whose keys are spelled in other letter
cases, the settings stay the same if every key is spelled alike, which it is if its words start at
the same places. Of any key that is not spelled alike this is not so: there is a value for the
option that makes other settings, or another failure, in some environment. -/
theorem ofMapping_recased {config config' sectionName sectionName' : Value}
    {given given' : List (String × Value)}
    (h : sectionEntries config sectionName = .ok (Value.ofNames given))
    (h' : sectionEntries config' sectionName' = .ok (Value.ofNames given'))
    (recased : List.Forall₂ (fun e e' => Recased e.1 e'.1 ∧ e.2 = e'.2) given given') :
    ((∀ e ∈ given.zip given', Alike e.1.1 e.2.1) → ∀ environment,
      ofMapping config sectionName environment = ofMapping config' sectionName' environment) ∧
    ∀ e ∈ given.zip given',
      (OptionName.wordStarts e.1.1 = OptionName.wordStarts e.2.1 → Alike e.1.1 e.2.1) ∧
      (¬ Alike e.1.1 e.2.1 → ∃ value environment,
        ofMapping (single e.1.1 value) .null environment ≠
          ofMapping (single e.2.1 value) .null environment) := by
  obtain ⟨length, pairs⟩ := List.forall₂_iff_zip.mp recased
  constructor
  · intro alike environment
    refine ofMapping_congr h h' (List.forall₂_iff_zip.mpr ⟨length, ?_⟩) environment
    intro e e' hm
    exact ⟨alike (e, e') hm, (pairs hm).2⟩
  · intro e he
    obtain ⟨spelled, -⟩ : Recased e.1.1 e.2.1 ∧ e.1.2 = e.2.2 := pairs he
    exact ⟨alike_of_wordStarts spelled, exists_ofMapping_ne⟩

/-- Of a key of two words, a spelling that keeps both, and one that does not. -/
theorem ofMapping_recased_stripHyphens :
    (∀ environment, ofMapping (single "StripHyphens" (.bool true)) .null environment =
      ofMapping (single "stripHyphens" (.bool true)) .null environment) ∧
    ∃ value environment, ofMapping (single "StripHyphens" value) .null environment ≠
      ofMapping (single "striphyphens" value) .null environment := by
  have spelled (key' : String) (recased : Recased "StripHyphens" key') :=
    ofMapping_recased (sectionEntries_single "StripHyphens" (.bool true))
      (sectionEntries_single key' (.bool true)) (.cons ⟨recased, rfl⟩ .nil)
  have kept := spelled "stripHyphens" (by decide)
  have lost := spelled "striphyphens" (by decide)
  have alike := (kept.2 _ (.head _)).1 (by decide)
  have apart : ¬ Alike "StripHyphens" "striphyphens" := by decide +kernel
  exact ⟨kept.1 (by simpa using alike), (lost.2 _ (.head _)).2 apart⟩

/-- **A spelling that is passed over**: without the capital between its words, the option is not
found. -/
theorem not_ofMapping_recased :
    ¬ ∀ (key key' : String) (value : Value) (environment : List (String × String)),
      Recased key key' → ofMapping (single key value) .null environment =
        ofMapping (single key' value) .null environment := by
  intro claim
  have same := claim "StripHyphens" "striphyphens" (.bool true) [] (by decide)
  have differs :
      (ofMapping (single "StripHyphens" (.bool true)) .null []).toOption.map Settings.stripHyphens ≠
        (ofMapping (single "striphyphens" (.bool true)) .null []).toOption.map
          Settings.stripHyphens := by
    decide +kernel
  exact differs (by rw [same])

end GraphMapper.Settings
