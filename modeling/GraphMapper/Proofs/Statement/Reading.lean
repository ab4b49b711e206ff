import GraphMapper.Identifier
import Mathlib.Data.List.Basic
import Mathlib.Data.List.TakeWhile

/-!
# Reading a statement

What a statement says is read off its characters here, without a look at how it came about.
Three readings are enough for what is claimed of statements.

* `GraphMapper.Statement.references` are the names of the parameters that a statement refers
  to: whatever follows a dollar sign, as long as it reads as a name.
* `GraphMapper.Statement.conjuncts` are the conditions on the first node of its pattern: what
  stands between the first pair of braces, cut at commas.
* `GraphMapper.Statement.assignments` are the assignments of one branch, `CREATE` or `MATCH`:
  the word that follows the name of the branch and the word `SET`, cut at commas.

The lemmas say how each reading goes through a concatenation. They ask for little: that no
piece holds a character that the reading takes for a mark.
-/

namespace GraphMapper.Statement

/-! ### Names after dollar signs -/

/-- The names that follow the dollar signs in a row of characters, each as long as it reads
as a name. -/
def namesIn : List Char → List String
  | [] => []
  | c :: rest =>
    if c = '$' then String.ofList (rest.takeWhile isIdentifierChar) :: namesIn rest
    else namesIn rest

/-- The names of the parameters that a statement refers to. -/
def references (s : String) : List String := namesIn s.toList

/-- Whether a text is exactly a name: a letter or underscore, then letters, digits and
underscores. -/
def isName (s : String) : Bool :=
  match s.toList with
  | [] => false
  | c :: rest => isIdentifierHead c && rest.all isIdentifierChar

/-- Whether a text refers to nothing, and ends a name that is written in front of it. -/
def isGap (s : String) : Bool :=
  match s.toList with
  | [] => false
  | c :: rest => !isIdentifierChar c && (c :: rest).all (· != '$')

theorem isGap_cases {s : String} (h : isGap s = true) :
    (∃ c rest, s.toList = c :: rest ∧ isIdentifierChar c = false) ∧ '$' ∉ s.toList := by
  unfold isGap at h
  split at h
  · cases h
  · next c rest hs =>
    obtain ⟨hc, hd⟩ := Bool.and_eq_true _ _ ▸ h
    refine ⟨⟨c, rest, hs, by simpa using hc⟩, fun hm => ?_⟩
    rw [hs] at hm
    simpa using List.all_eq_true.mp hd '$' hm

theorem isIdentifierChar_of_isIdentifierHead {c : Char} (h : isIdentifierHead c = true) :
    isIdentifierChar c = true := by
  rcases Bool.or_eq_true _ _ ▸ h with h | h
  · simp [isIdentifierChar, Char.isAlphanum, h]
  · simp [isIdentifierChar, h]

theorem isIdentifierChar_of_mem {s : String} (h : isName s = true) {c : Char}
    (hc : c ∈ s.toList) : isIdentifierChar c = true := by
  unfold isName at h
  split at h
  · cases h
  · next head rest hs =>
    obtain ⟨hh, hr⟩ := Bool.and_eq_true _ _ ▸ h
    rw [hs] at hc
    rcases List.mem_cons.mp hc with rfl | hc
    · exact isIdentifierChar_of_isIdentifierHead hh
    · exact List.all_eq_true.mp hr c hc

/-- A name behind a name is a name. -/
theorem isName_append {s t : String} (hs : isName s = true) (ht : isName t = true) :
    isName (s ++ t) = true := by
  unfold isName at hs
  split at hs
  · cases hs
  · next head rest h =>
    obtain ⟨hh, hr⟩ := Bool.and_eq_true _ _ ▸ hs
    have whole : (s ++ t).toList = head :: (rest ++ t.toList) := by
      rw [String.toList_append, h, List.cons_append]
    unfold isName
    rw [whole]
    simp only [hh, List.all_append, hr, Bool.true_and]
    exact List.all_eq_true.mpr fun c hc => isIdentifierChar_of_mem ht hc

theorem namesIn_append_of_notMem {xs : List Char} (h : '$' ∉ xs) (ys : List Char) :
    namesIn (xs ++ ys) = namesIn ys := by
  induction xs with
  | nil => rfl
  | cons c xs ih =>
    have hc : ¬ c = '$' := fun hc => h (hc ▸ List.mem_cons_self)
    rw [List.cons_append, namesIn, if_neg hc]
    exact ih fun hm => h (List.mem_cons_of_mem _ hm)

theorem namesIn_append {ys : List Char} (h : ∀ c ∈ ys.head?, isIdentifierChar c = false)
    (xs : List Char) : namesIn (xs ++ ys) = namesIn xs ++ namesIn ys := by
  induction xs with
  | nil => rfl
  | cons c xs ih =>
    -- No name runs on from the first row into the second.
    have run : (xs ++ ys).takeWhile isIdentifierChar = xs.takeWhile isIdentifierChar := by
      rw [List.takeWhile_append]
      split
      · next full =>
        have stop : ys.takeWhile isIdentifierChar = [] := by
          cases ys with
          | nil => rfl
          | cons y ys => rw [List.takeWhile_cons, h y rfl]; rfl
        rw [stop, List.append_nil]
        exact ((List.takeWhile_prefix _).eq_of_length full).symm
      · rfl
    rw [List.cons_append, namesIn, namesIn, run, ih]
    split <;> rfl

theorem references_eq_nil {s : String} (h : '$' ∉ s.toList) : references s = [] := by
  simpa [references, namesIn] using namesIn_append_of_notMem h []

/-- **What refers to nothing can be left out in front.** -/
theorem references_append_of_notMem {s : String} (h : '$' ∉ s.toList) (t : String) :
    references (s ++ t) = references t := by
  rw [references, String.toList_append, namesIn_append_of_notMem h, references]

/-- **References add up**, if no name runs on into the second text. -/
theorem references_append {t : String} {c : Char} {rest : List Char} (ht : t.toList = c :: rest)
    (hc : isIdentifierChar c = false) (s : String) :
    references (s ++ t) = references s ++ references t := by
  rw [references, String.toList_append, namesIn_append ?_, references, references]
  rintro _ hd
  rw [ht] at hd
  obtain rfl := Option.some.inj hd
  exact hc

/-- **A gap can be left out.** -/
theorem references_past {mid : String} (h : isGap mid = true) (s t : String) :
    references (s ++ (mid ++ t)) = references s ++ references t := by
  obtain ⟨⟨c, rest, hm, hc⟩, hd⟩ := isGap_cases h
  have hmt : (mid ++ t).toList = c :: (rest ++ t.toList) := by
    rw [String.toList_append, hm, List.cons_append]
  rw [references_append hmt hc, references_append_of_notMem hd]

theorem references_to_end {mid : String} (h : isGap mid = true) (s : String) :
    references (s ++ mid) = references s := by
  obtain ⟨⟨c, rest, hm, hc⟩, hd⟩ := isGap_cases h
  rw [references_append hm hc, references_eq_nil hd, List.append_nil]

/-- Whether a text ends in a character that goes on no name and begins none. -/
def isEnded (s : String) : Bool :=
  s.toList.getLast?.any fun c => !isIdentifierChar c && c != '$'

/-- References add up as well if the first text has ended its names. -/
theorem references_append_of_ended {s : String} (hs : isEnded s = true) (t : String) :
    references (s ++ t) = references s ++ references t := by
  obtain ⟨c, hl, ended⟩ := (Option.any_eq_true _ _).mp hs
  obtain ⟨hc, hd⟩ : isIdentifierChar c = false ∧ c ≠ '$' := by simpa using ended
  obtain ⟨front, hf⟩ := List.getLast?_eq_some_iff.mp hl
  have stops (ys : List Char) : ∀ d ∈ (c :: ys).head?, isIdentifierChar d = false := by
    rintro _ ⟨⟩
    exact hc
  have passed (ys : List Char) : namesIn (c :: ys) = namesIn ys := by
    rw [namesIn, if_neg hd]
  rw [references, String.toList_append, hf, List.append_assoc, List.singleton_append,
    namesIn_append (stops _), passed, references, hf, namesIn_append (stops _), passed, references]
  simp [namesIn]

/-- A name after a dollar sign is a reference to it. -/
theorem references_dollar {name : String} (h : isName name = true) {front : List Char}
    (hf : '$' ∉ front) {s : String} (hs : s.toList = front ++ '$' :: name.toList) :
    references s = [name] := by
  have plain (c : Char) (hc : c ∈ name.toList) : isIdentifierChar c = true :=
    isIdentifierChar_of_mem h hc
  have none : '$' ∉ name.toList := fun hd => absurd (plain _ hd) (by decide)
  rw [references, hs, namesIn_append_of_notMem hf, namesIn, if_pos rfl,
    List.takeWhile_eq_self_iff.mpr plain, String.ofList_toList]
  exact congrArg _ (references_eq_nil none)

example : references "SET n.Name=$Name,n.Age=$create_Age RETURN n" = ["Name", "create_Age"] := by
  decide

/-! ### Pieces -/

/-- The pieces of a text between the occurrences of a character. -/
def pieces (separator : Char) (s : String) : List String :=
  (s.toList.splitOn separator).map String.ofList

/-- Pieces that are joined by a character are found again. -/
theorem pieces_intercalate {separator : Char} {parts : List String} (hne : parts ≠ [])
    (h : ∀ part ∈ parts, separator ∉ part.toList) :
    pieces separator ((String.singleton separator).intercalate parts) = parts := by
  have apart : ∀ l ∈ parts.map String.toList, separator ∉ l := by
    rintro _ hl
    obtain ⟨part, hp, rfl⟩ := List.mem_map.mp hl
    exact h part hp
  rw [pieces, String.toList_intercalate, String.toList_singleton,
    List.splitOn_intercalate separator apart (by simpa using hne), List.map_map]
  exact List.map_id'' (fun part => String.ofList_toList) parts

/-- Characters of a kind are all taken, up to one that is not of this kind. -/
theorem takeWhile_append {kind : Char → Bool} {xs ys : List Char} (inside : ∀ c ∈ xs, kind c = true)
    (stops : ∀ c ∈ ys.head?, kind c = false) : (xs ++ ys).takeWhile kind = xs := by
  have rest : ys.takeWhile kind = [] := by
    cases ys with
    | nil => rfl
    | cons c ys => exact List.takeWhile_cons_of_neg (by simp [stops c rfl])
  rw [List.takeWhile_append_of_pos inside, rest, List.append_nil]

/-- What is taken up to a mark. -/
theorem takeWhile_upTo {mark : Char} {xs ys : List Char} (h : mark ∉ xs)
    (stops : ∀ c ∈ ys.head?, c = mark) : (xs ++ ys).takeWhile (· ≠ mark) = xs := by
  refine takeWhile_append (fun c hc => ?_) fun c hc => ?_
  · exact decide_eq_true fun e => h (e ▸ hc)
  · simp [stops c hc]

/-- The part of a text behind the first opening mark, up to the next closing one. -/
def between (opening closing : Char) (s : String) : String :=
  String.ofList (((s.toList.dropWhile (· ≠ opening)).drop 1).takeWhile (· ≠ closing))

theorem between_eq {opening closing : Char} {s inside : String} {front rest : List Char}
    (hs : s.toList = front ++ opening :: (inside.toList ++ closing :: rest))
    (hf : opening ∉ front) (hi : closing ∉ inside.toList) : between opening closing s = inside := by
  have passed : ∀ c ∈ front, decide (c ≠ opening) = true := by
    intro c hc
    exact decide_eq_true fun e => hf (e ▸ hc)
  rw [between, hs, List.dropWhile_append_of_pos passed, List.dropWhile_cons_of_neg (by simp),
    List.drop_one, List.tail_cons, takeWhile_upTo hi (by simp), String.ofList_toList]

/-! ### Conditions and assignments -/

/-- The conditions on the first node of the pattern of a statement. -/
def conjuncts (s : String) : List String := pieces ',' (between '\x7b' '\x7d' s)

/-- The assignments of a branch among the words of a statement. -/
def assignmentsIn (branch : String) : List String → List String
  | first :: second :: third :: rest =>
    if first = branch ∧ second = "SET" then pieces ',' third
    else assignmentsIn branch (second :: third :: rest)
  | _ => []

/-- The assignments of a branch of a statement. -/
def assignments (branch : String) (s : String) : List String :=
  assignmentsIn branch (pieces ' ' s)

/-- A text with one mark in it has one part before and one part behind the mark. -/
theorem eq_of_marked {mark : Char} {a b a' b' : List Char}
    (h : a ++ mark :: b = a' ++ mark :: b') (ha : mark ∉ a') (hb : mark ∉ b') :
    a = a' ∧ b = b' := by
  obtain ⟨h1, -, h2⟩ := (List.append_cons_inj_of_notMem ha hb).mp h.symm
  exact ⟨h1.symm, h2.symm⟩

end GraphMapper.Statement
