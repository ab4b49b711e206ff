import GraphMapper.Proofs.Settings.OptionNames
import Mathlib.Data.List.Chain

/-!
# Spellings of a name

The words of a name are written side by side, with capitals where they start, or with underscores
between them. Each `GraphMapper.OptionName.Spelling` is one way to do so, and all of them stand for
the words in small letters with underscores between them, as long as no word but the last is a
single letter (`GraphMapper.OptionName.ofKey_spelled`).

A key is brought to small letters character by character, each with a look at the one in front of
it. So all that one word leaves to the next is its last character
(`GraphMapper.OptionName.continued_append`), and this is what the induction over the words carries:
a capital starts a word exactly if the word in front of it ended in a small letter, which a word of
one letter, itself a capital, did not.
-/

namespace GraphMapper

namespace OptionName

/-! ### Words and spellings -/

/-- A word of a name: at least one letter, and all of them small ASCII letters. -/
structure IsWord (word : String) : Prop where
  /-- There is a letter. -/
  ne_empty : word ≠ ""
  /-- All letters are small. -/
  small : ∀ c ∈ word.toList, c.isLower = true

instance (word : String) : Decidable (IsWord word) :=
  decidable_of_iff (word ≠ "" ∧ word.toList.all Char.isLower = true)
    ⟨fun h => ⟨h.1, List.all_eq_true.mp h.2⟩, fun h => ⟨h.1, List.all_eq_true.mpr h.2⟩⟩

/-- A word with a capital for its first letter. -/
def capitalized (word : String) : String := String.ofList (word.toList.modifyHead Char.toUpper)

/-- A way to write the words of a name. -/
inductive Spelling where
  /-- Side by side, each with a capital: `StripHyphens`. -/
  | capitals
  /-- Side by side, each but the first with a capital: `stripHyphens`. -/
  | innerCapitals
  /-- With underscores in between: `strip_hyphens`. -/
  | underscores
  /-- In capitals, with underscores in between: `STRIP_HYPHENS`. -/
  | loud
  deriving DecidableEq, Repr

/-- The words of a name, written in some way. -/
def Spelling.write : Spelling → List String → String
  | .capitals, words => String.join (words.map capitalized)
  | .innerCapitals, words => String.join (words.take 1 ++ (words.drop 1).map capitalized)
  | .underscores, words => "_".intercalate words
  | .loud, words => "_".intercalate (words.map String.toUpper)

/-- The characters of a text that are no underscores. -/
def withoutUnderscores (s : String) : List Char := s.toList.filter (· ≠ '_')

/-! ### Single characters -/

/-- A small letter is its own small form, and that of its capital. -/
theorem forms_of_isLower {c : Char} (h : c.isLower = true) :
    (Text.lowered c = [c] ∧ Text.isCapital c = false) ∧
      Text.lowered c.toUpper = [c] ∧ Text.isCapital c.toUpper = true := by
  have ascii : c.toNat < 128 := by
    obtain ⟨-, upTo⟩ := Bool.and_eq_true _ _ ▸ h
    have last : c.val.toNat ≤ 122 := of_decide_eq_true upTo
    change c.val.toNat < 128
    omega
  exact Text.forall_ascii (P := fun c => c.isLower = true →
    (Text.lowered c = [c] ∧ Text.isCapital c = false) ∧
      Text.lowered c.toUpper = [c] ∧ Text.isCapital c.toUpper = true) (by decide +kernel) ascii h

theorem ne_underscore_of_isLower {c : Char} (h : c.isLower = true) : c ≠ '_' := by
  rintro rfl
  cases h

theorem ne_underscore_of_isCapital {c : Char} (h : Text.isCapital c = true) : c ≠ '_' := by
  rintro rfl
  exact absurd h (by decide)

/-! ### What one word leaves to the next -/

/-- **The scan goes on from the last character.** -/
theorem continued_append (p : Char) (xs ys : List Char) :
    continued p (xs ++ ys) = continued p xs ++ continued (xs.getLastD p) ys := by
  induction xs generalizing p with
  | nil => rfl
  | cons x xs ih =>
    simp only [List.cons_append, continued, ih, List.getLastD_cons, List.append_assoc]

/-- Where no word starts, a key is brought to small letters as it is. -/
theorem continued_eq_flatMap {p : Char} {cs : List Char}
    (h : (p :: cs).IsChain fun a b => startsWord a b = false) :
    continued p cs = cs.flatMap Text.lowered := by
  induction cs generalizing p with
  | nil => rfl
  | cons c cs ih =>
    obtain ⟨first, others⟩ := List.isChain_cons_cons.mp h
    rw [continued, first, ih others]
    rfl

/-- **Without word starts, small forms are all there is**: a key that was made of a name by going
over to characters whose small forms those of the name are stands for this name. -/
theorem ofKey_eq_of_map {f : Char → Char} {key name : String}
    (made : key.toList = name.toList.map f)
    (small : ∀ c ∈ name.toList, Text.lowered (f c) = [c])
    (plain : ∀ a ∈ name.toList, ∀ b ∈ name.toList, startsWord (f a) (f b) = false) :
    ofKey key = name := by
  have unbroken : key.toList.IsChain fun a b => startsWord a b = false := by
    rw [made, List.isChain_map]
    exact List.Pairwise.isChain (List.pairwise_of_forall_mem_list plain)
  have same : normalized key.toList = key.toList.flatMap Text.lowered := by
    cases hk : key.toList with
    | nil => rfl
    | cons c cs => rw [normalized, continued_eq_flatMap (hk ▸ unbroken), List.flatMap_cons]
  rw [ofKey, same, made, List.flatMap_map, List.flatMap_congr small, List.flatMap_singleton',
    String.ofList_toList]

/-- No word starts in front of small letters. -/
theorem continued_small {cs : List Char} (h : ∀ c ∈ cs, c.isLower = true) (p : Char) :
    continued p cs = cs := by
  induction cs generalizing p with
  | nil => rfl
  | cons c cs ih =>
    obtain ⟨first, others⟩ := List.forall_mem_cons.mp h
    obtain ⟨⟨same, plain⟩, -⟩ := forms_of_isLower first
    rw [continued, startsWord, plain, same, ih others]
    rfl

/-- What small letters leave behind is a small letter. -/
theorem isLower_getLastD {cs : List Char} (h : ∀ c ∈ cs, c.isLower = true) (hne : cs ≠ [])
    (p : Char) : (cs.getLastD p).isLower = true := by
  rw [List.getLastD_eq_getLast?, List.getLast?_eq_getLast_of_ne_nil hne, Option.getD_some]
  exact h _ (List.getLast_mem hne)

/-- A capital is seen behind small letters only if there are none. -/
theorem isCapital_getLastD_iff {cs : List Char} (h : ∀ c ∈ cs, c.isLower = true) {p : Char}
    (hp : Text.isCapital p = true) : Text.isCapital (cs.getLastD p) = true ↔ cs = [] := by
  constructor
  · intro ends
    by_contra hne
    rw [(forms_of_isLower (isLower_getLastD h hne p)).1.2] at ends
    cases ends
  · rintro rfl
    exact hp

theorem getLastD_ne_underscore {cs : List Char} (h : ∀ c ∈ cs, c.isLower = true) {p : Char}
    (hp : Text.isCapital p = true) : cs.getLastD p ≠ '_' := by
  by_cases hne : cs = []
  · exact ne_underscore_of_isCapital ((isCapital_getLastD_iff h hp).mpr hne)
  · exact ne_underscore_of_isLower (isLower_getLastD h hne p)

theorem IsWord.exists_head {word : String} (h : IsWord word) : ∃ c rest,
    word.toList = c :: rest ∧ c.isLower = true ∧ ∀ d ∈ rest, d.isLower = true := by
  obtain ⟨c, rest, hw⟩ := List.exists_cons_of_ne_nil (String.toList_eq_nil_iff.not.mpr h.ne_empty)
  have small := h.small
  rw [hw] at small
  exact ⟨c, rest, hw, List.forall_mem_cons.mp small⟩

/-! ### Words side by side -/

/-- The characters of words that are side by side, each with a capital. -/
def sideBySide (words : List String) : List Char := (String.join (words.map capitalized)).toList

/-- The characters of words that have an underscore in front of each. -/
def underscored (words : List String) : List Char := words.flatMap fun word => '_' :: word.toList

theorem sideBySide_cons {word : String} {c : Char} {rest : List Char} (h : word.toList = c :: rest)
    (words : List String) :
    sideBySide (word :: words) = c.toUpper :: (rest ++ sideBySide words) := by
  simp [sideBySide, capitalized, h]

theorem underscored_cons {word : String} {c : Char} {rest : List Char} (h : word.toList = c :: rest)
    (words : List String) :
    underscored (word :: words) = '_' :: c :: (rest ++ underscored words) := by
  simp [underscored, h]

/-- A word is set off unless a capital is in front of it. -/
theorem continued_sideBySide_cons {word : String} {c : Char} {rest : List Char}
    (hw : word.toList = c :: rest) (letter : c.isLower = true)
    (inner : ∀ d ∈ rest, d.isLower = true) (words : List String) {p : Char} (hp : p ≠ '_') :
    continued p (sideBySide (word :: words)) = (if Text.isCapital p then [] else ['_']) ++
      c :: (rest ++ continued (rest.getLastD c.toUpper) (sideBySide words)) := by
  obtain ⟨-, form, capital⟩ := forms_of_isLower letter
  have starts : startsWord p c.toUpper = !Text.isCapital p := by
    simp [startsWord, capital, hp]
  rw [sideBySide_cons hw, continued, form, continued_append, continued_small inner, starts]
  cases Text.isCapital p <;> rfl

/-- **Words side by side come apart where their capitals follow small letters.** By induction on the
words: the first of them is set off unless a capital is in front, and leaves a capital to the next
exactly if it is a single letter. -/
theorem continued_sideBySide_iff {words : List String} (h : ∀ word ∈ words, IsWord word)
    {p : Char} (hp : p ≠ '_') :
    continued p (sideBySide words) = underscored words ↔
      (Text.isCapital p = true → words = []) ∧ ∀ word ∈ words.dropLast, 2 ≤ word.length := by
  induction words generalizing p with
  | nil => simp [sideBySide, underscored, continued]
  | cons word words ih =>
    obtain ⟨first, others⟩ := List.forall_mem_cons.mp h
    obtain ⟨c, rest, hw, letter, inner⟩ := first.exists_head
    have capital := (forms_of_isLower letter).2.2
    rw [continued_sideBySide_cons hw letter inner words hp, underscored_cons hw]
    cases before : Text.isCapital p with
    | true => simp [ne_underscore_of_isLower letter]
    | false =>
      simp only [Bool.false_eq_true, ite_false, List.cons_append, List.nil_append, List.cons.injEq,
        true_and, List.append_cancel_left_eq, false_imp_iff]
      rw [ih others (getLastD_ne_underscore inner capital), isCapital_getLastD_iff inner capital]
      -- A single letter is the last word, or leaves its capital to the next one.
      rcases words with _ | ⟨next, words⟩
      · simp
      · rw [List.dropLast_cons_of_ne_nil (List.cons_ne_nil _ _), List.forall_mem_cons]
        refine and_congr_left' ?_
        rw [← String.length_toList, hw]
        rcases rest with _ | ⟨d, rest⟩ <;> simp

/-- Underscores between words, and one more in front. -/
theorem underscore_cons_intercalate {words : List String} (hne : words ≠ []) :
    '_' :: ("_".intercalate words).toList = underscored words := by
  induction words with
  | nil => exact absurd rfl hne
  | cons word rest ih =>
    rcases rest with _ | ⟨next, rest⟩
    · simp [underscored]
    · have others := ih (List.cons_ne_nil _ _)
      rw [String.intercalate_cons_cons, String.toList_append, String.toList_append,
        List.append_assoc]
      rw [underscored, List.flatMap_cons, ← underscored, ← others]
      rfl

/-! ### Each spelling -/

section Spelled

variable {words : List String} (hne : words ≠ []) (h : ∀ word ∈ words, IsWord word)

include hne h

theorem ofKey_capitals_iff : ofKey (Spelling.capitals.write words) = "_".intercalate words ↔
    ∀ word ∈ words.dropLast, 2 ≤ word.length := by
  have led : continued 'a' (sideBySide words) = '_' :: normalized (sideBySide words) := by
    obtain ⟨word, rest, rfl⟩ := List.exists_cons_of_ne_nil hne
    obtain ⟨c, _, hw, letter, -⟩ := (h word List.mem_cons_self).exists_head
    have starts : startsWord 'a' c.toUpper = true := by
      rw [startsWord, (forms_of_isLower letter).2.2]
      rfl
    rw [sideBySide_cons hw, continued, starts, normalized]
    rfl
  -- Behind a small letter, the first word starts like all others.
  have scan := continued_sideBySide_iff h (p := 'a') (by decide)
  rw [led, ← underscore_cons_intercalate hne, List.cons_inj_right] at scan
  rw [← String.toList_inj, ofKey, String.toList_ofList]
  refine scan.trans ?_
  simp [show Text.isCapital 'a' = false by decide]

theorem ofKey_innerCapitals_iff :
    ofKey (Spelling.innerCapitals.write words) = "_".intercalate words ↔
      ∀ word ∈ words.tail.dropLast, 2 ≤ word.length := by
  obtain ⟨word, rest, rfl⟩ := List.exists_cons_of_ne_nil hne
  obtain ⟨first, others⟩ := List.forall_mem_cons.mp h
  obtain ⟨c, cs, hw, letter, inner⟩ := first.exists_head
  have small := isLower_getLastD first.small (hw ▸ List.cons_ne_nil c cs) '_'
  rw [hw, List.getLastD_cons] at small
  have written : (Spelling.innerCapitals.write (word :: rest)).toList =
      c :: (cs ++ sideBySide rest) := by
    simp [Spelling.write, sideBySide, hw]
  have joined : ("_".intercalate (word :: rest)).toList = c :: (cs ++ underscored rest) := by
    refine (List.cons_inj_right '_').mp ?_
    rw [underscore_cons_intercalate hne, underscored_cons hw]
  rw [← String.toList_inj, ofKey, String.toList_ofList, written, joined, normalized,
    continued_append, continued_small inner, (forms_of_isLower letter).1.1]
  rw [List.singleton_append, List.cons_inj_right, List.append_cancel_left_eq,
    continued_sideBySide_iff others (ne_underscore_of_isLower small),
    (forms_of_isLower small).1.2]
  simp

theorem mem_intercalate {c : Char} (hc : c ∈ ("_".intercalate words).toList) :
    c.isLower = true ∨ c = '_' := by
  have led := List.mem_cons_of_mem '_' hc
  rw [underscore_cons_intercalate hne, underscored, List.mem_flatMap] at led
  obtain ⟨word, hw, hc⟩ := led
  rcases List.mem_cons.mp hc with rfl | hc
  · exact .inr rfl
  · exact .inl ((h word hw).small c hc)

/-- Where there are only small letters and underscores, nothing is changed. -/
theorem ofKey_underscores : ofKey (Spelling.underscores.write words) = "_".intercalate words := by
  have kept {c : Char} (hc : c ∈ ("_".intercalate words).toList) :
      Text.lowered c = [c] ∧ Text.isCapital c = false := by
    rcases mem_intercalate hne h hc with hc | rfl
    · exact (forms_of_isLower hc).1
    · decide
  refine ofKey_eq_of_map (List.map_id _).symm (fun c hc => (kept hc).1) fun a _ b hb => ?_
  simp [startsWord, (kept hb).2]

/-- In capitals, no capital follows a small letter. -/
theorem ofKey_loud : ofKey (Spelling.loud.write words) = "_".intercalate words := by
  have upper (word : String) : word.toUpper.toList = word.toList.map Char.toUpper :=
    String.toList_map
  have raised : (Spelling.loud.write words).toList =
      ("_".intercalate words).toList.map Char.toUpper := by
    refine (List.cons_inj_right '_').mp ?_
    calc '_' :: (Spelling.loud.write words).toList
        = underscored (words.map String.toUpper) :=
          underscore_cons_intercalate (by simpa using hne)
      _ = (underscored words).map Char.toUpper := by
          simp [underscored, List.flatMap_map, List.map_flatMap, upper]
      _ = '_' :: ("_".intercalate words).toList.map Char.toUpper := by
          rw [← underscore_cons_intercalate hne]
          rfl
  have form {c : Char} (hc : c ∈ ("_".intercalate words).toList) :
      Text.lowered c.toUpper = [c] ∧ (Text.isCapital c.toUpper = true ∨ c.toUpper = '_') := by
    rcases mem_intercalate hne h hc with hc | rfl
    · exact ⟨(forms_of_isLower hc).2.1, .inl (forms_of_isLower hc).2.2⟩
    · decide
  refine ofKey_eq_of_map raised (fun c hc => (form hc).1) fun a ha b _ => ?_
  rcases (form ha).2 with capital | same
  · simp [startsWord, capital]
  · simp [startsWord, same]

end Spelled

/-! ### Keys in ASCII -/

/-- By induction: apart from underscores, a key is brought to small letters as it is. -/
theorem filter_continued (p : Char) (cs : List Char) :
    (continued p cs).filter (· ≠ '_') = (cs.flatMap Text.lowered).filter (· ≠ '_') := by
  induction cs generalizing p with
  | nil => rfl
  | cons c cs ih =>
    have marked : (if startsWord p c = true then ['_'] else []).filter (· ≠ '_') = [] := by
      split <;> rfl
    rw [continued, List.filter_append, List.filter_append, marked, List.nil_append, ih,
      List.flatMap_cons, List.filter_append]

theorem withoutUnderscores_ofKey (key : String) :
    withoutUnderscores (ofKey key) = withoutUnderscores (Text.lowercase key) := by
  rw [withoutUnderscores, withoutUnderscores, ofKey, Text.lowercase, String.toList_ofList,
    String.toList_ofList]
  cases key.toList with
  | nil => rfl
  | cons c cs =>
    rw [normalized, List.filter_append, filter_continued, List.flatMap_cons, List.filter_append]

theorem lowercase_ascii {key : String} (h : ∀ c ∈ key.toList, c.toNat < 128) :
    Text.lowercase key = key.toLower := by
  have small : key.toLower.toList = key.toList.map Char.toLower := String.toList_map
  rw [← String.toList_inj, small, Text.lowercase, String.toList_ofList,
    List.flatMap_congr fun c hc => Text.lowered_ascii (h c hc), ← List.map_eq_flatMap]

theorem isCapital_ofKey_ascii {key : String} (h : ∀ c ∈ key.toList, c.toNat < 128) :
    ∀ d ∈ (ofKey key).toList, Text.isCapital d = false := by
  intro d hd
  rcases mem_ofKey hd with rfl | ⟨c, hc, hd⟩
  · decide
  · rw [Text.lowered_ascii (h c hc), List.mem_singleton] at hd
    subst hd
    exact Text.forall_ascii (P := fun c => Text.isCapital c.toLower = false) (by decide +kernel)
      (h c hc)

/-- **Spellings of a name.** All ways to write the words of a name stand for the words in small
letters with underscores between them exactly if every word but the last has at least two letters.
And whatever is written in ASCII, no capital is left of it, and but for underscores it is what it is
in small letters. -/
theorem ofKey_spelled :
    (∀ words : List String, words ≠ [] → (∀ word ∈ words, IsWord word) →
      ((∀ spelling : Spelling, ofKey (spelling.write words) = "_".intercalate words) ↔
        ∀ word ∈ words.dropLast, 2 ≤ word.length)) ∧
    ∀ key : String, (∀ c ∈ key.toList, c.toNat < 128) →
      (∀ c ∈ (ofKey key).toList, Text.isCapital c = false) ∧
        withoutUnderscores (ofKey key) = withoutUnderscores key.toLower := by
  constructor
  · intro words hne h
    constructor
    · intro spelled
      exact (ofKey_capitals_iff hne h).mp (spelled .capitals)
    · intro long spelling
      cases spelling with
      | capitals => exact (ofKey_capitals_iff hne h).mpr long
      | innerCapitals =>
        refine (ofKey_innerCapitals_iff hne h).mpr fun word hw => long word ?_
        rw [← List.tail_dropLast] at hw
        exact List.mem_of_mem_tail hw
      | underscores => exact ofKey_underscores hne h
      | loud => exact ofKey_loud hne h
  · intro key ascii
    refine ⟨isCapital_ofKey_ascii ascii, ?_⟩
    rw [withoutUnderscores_ofKey, lowercase_ascii ascii]

/-- A name of three words in all spellings, and a key that is none of them. -/
theorem ofKey_spelled_maxConnectionLifetime :
    ((∀ word ∈ ["max", "connection", "lifetime"], IsWord word) ∧
      (∀ word ∈ ["max", "connection", "lifetime"].dropLast, 2 ≤ word.length) ∧
      ∀ spelling : Spelling,
        ofKey (spelling.write ["max", "connection", "lifetime"]) = "max_connection_lifetime") ∧
    (∀ c ∈ "_HTTPProxy__URLs".toList, c.toNat < 128) ∧
      (∀ c ∈ (ofKey "_HTTPProxy__URLs").toList, Text.isCapital c = false) ∧
        withoutUnderscores (ofKey "_HTTPProxy__URLs") = "httpproxyurls".toList := by
  have words : ∀ word ∈ ["max", "connection", "lifetime"], IsWord word := by decide
  have long : ∀ word ∈ ["max", "connection", "lifetime"].dropLast, 2 ≤ word.length := by decide
  have ascii : ∀ c ∈ "_HTTPProxy__URLs".toList, c.toNat < 128 := by simp
  have lower : "_HTTPProxy__URLs".toLower = "_httpproxy__urls" := by
    rw [← lowercase_ascii ascii]
    decide
  have plain : withoutUnderscores "_httpproxy__urls" = "httpproxyurls".toList := by decide
  obtain ⟨small, kept⟩ := ofKey_spelled.2 "_HTTPProxy__URLs" ascii
  rw [lower, plain] at kept
  have spelled := (ofKey_spelled.1 _ (List.cons_ne_nil _ _) words).mpr long
  exact ⟨⟨words, long, spelled⟩, ascii, small, kept⟩

-- A word of one letter runs into the next one.
example : ofKey (Spelling.capitals.write ["x", "axis"]) = "xaxis" := by decide

end OptionName

end GraphMapper
