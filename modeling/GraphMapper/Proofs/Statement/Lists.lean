import GraphMapper.Proofs.Clause
import Mathlib.Data.List.Chain

/-!
# The lists in a statement

A statement holds lists: conditions between braces, assignments behind the word `SET`, nodes of
a pattern. They are read off its characters, as in `GraphMapper.Statement`.

* `GraphMapper.Statement.insides` are the lists between braces.
* `GraphMapper.Statement.setLists` are the lists behind the word `SET`, each up to the next blank.
* `GraphMapper.Statement.Separated` says that no list has an empty element: no comma stands
  beside another one, or at the edge of a list.

A statement whose lists are what they should be is `GraphMapper.Statement.Filled`. This is shown of
a text from its end: putting a **plain** text in front changes nothing, and a list in braces or
behind `SET` adds that list (`GraphMapper.Statement.Filled.prepend`,
`GraphMapper.Statement.Filled.braced`, `GraphMapper.Statement.Filled.set`).
-/

namespace GraphMapper.Statement

/-! ### Reading lists -/

/-- What follows each opening brace in a row of characters, up to the next closing one. -/
def insidesIn : List Char → List String
  | [] => []
  | c :: rest =>
    if c = '\x7b' then String.ofList (rest.takeWhile (· ≠ '\x7d')) :: insidesIn rest
    else insidesIn rest

/-- The lists between the braces of a statement. -/
def insides (s : String) : List String := insidesIn s.toList

/-- The word before assignments, with the blanks around it. -/
def setMark : List Char := [' ', 'S', 'E', 'T', ' ']

/-- What follows the word `SET` wherever it stands in a row of characters, up to the next
blank. -/
def listsIn : List Char → List String
  | [] => []
  | c :: rest =>
    if setMark <+: c :: rest then
      String.ofList (((c :: rest).drop setMark.length).takeWhile (· ≠ ' ')) :: listsIn rest
    else listsIn rest

/-- The lists behind the words `SET` of a statement. -/
def setLists (s : String) : List String := listsIn s.toList

/-- Whether no element of a list can end with a character. -/
def opensList (c : Char) : Bool := [' ', ',', '(', '[', '\x7b'].contains c

/-- Whether no element of a list can begin with a character. -/
def closesList (c : Char) : Bool := [' ', ',', ')', ']', '\x7d'].contains c

/-- Whether two characters can stand side by side: there is an element on both sides of a
comma. -/
def fit (a b : Char) : Bool := !(b = ',' && opensList a) && !(a = ',' && closesList b)

/-- **No list in a text has an empty element.** The text ends its lists. -/
def Separated (s : String) : Prop :=
  (' ' :: (s.toList ++ [' '])).IsChain fun a b => fit a b = true

instance (s : String) : Decidable (Separated s) :=
  inferInstanceAs (Decidable (List.IsChain _ _))

example : insides "MATCH (n:A\x7bB:$B,C:$C\x7d)-[r:R\x7b\x7d]->(m)" = ["B:$B,C:$C", ""] ∧
    setLists "MATCH (n) SET n.A=$A,n.B=$B RETURN n" = ["n.A=$A,n.B=$B"] ∧
    ¬ Separated "SET n.A=$A, RETURN n" := by
  decide

/-- A text that says something of a property: an identifier, a colon, and something behind. -/
def IsEntry (s : String) : Prop :=
  ∃ key said, isIdentifier key.toList = true ∧ said ≠ "" ∧ s = key ++ ":" ++ said

/-- A text that assigns a parameter to a property of what is bound to a variable. -/
def IsAssignment (s : String) : Prop :=
  ∃ var key name, isIdentifier var.toList = true ∧ isIdentifier key.toList = true ∧
    isIdentifier name.toList = true ∧ s = var ++ "." ++ key ++ "=$" ++ name

/-- A list with an assignment in it. -/
def Assigns (list : String) : Prop := ∃ part ∈ pieces ',' list, IsAssignment part

/-- A statement whose lists are filled: those in braces with entries, and those behind `SET` with
what belongs there. -/
structure Filled (Belongs : String → Prop) (s : String) : Prop where
  /-- There are entries between braces, and nothing else. -/
  entries : ∀ inside ∈ insides s, ∀ part ∈ pieces ',' inside, IsEntry part
  /-- Behind `SET` there is what belongs there. -/
  sets : ∀ list ∈ setLists s, Belongs list
  /-- No list has an empty element. -/
  separated : Separated s

/-! ### Commas between elements -/

/-- What a comma asks of its neighbours, and of the ends of a text. -/
theorem separated_iff {s : String} : Separated s ↔
    s.toList.IsChain (fun a b => fit a b = true) ∧
      (∀ c ∈ s.toList.head?, c ≠ ',') ∧ ∀ c ∈ s.toList.getLast?, c ≠ ',' := by
  have first (c : Char) : fit ' ' c = true ↔ c ≠ ',' := by
    simp [fit, opensList]
  have last (c : Char) : fit c ' ' = true ↔ c ≠ ',' := by
    simp [fit, closesList]
  rw [Separated, List.isChain_cons, List.isChain_append]
  cases s.toList with
  | nil => simp [fit]
  | cons c rest =>
    simp only [List.cons_append, List.head?_cons, Option.mem_def, Option.some.injEq, forall_eq',
      first, last, List.isChain_singleton, true_and]
    constructor
    · rintro ⟨head, chain, ends⟩
      exact ⟨chain, head, fun c hc => ends c hc⟩
    · rintro ⟨chain, head, ends⟩
      exact ⟨head, chain, ends⟩

theorem separated_of_notMem {s : String} (h : ',' ∉ s.toList) : Separated s := by
  have inner {c : Char} (hc : c ∈ s.toList) : c ≠ ',' := fun e => h (e ▸ hc)
  refine separated_iff.mpr ⟨?_, fun c hc => ?_, fun c hc => ?_⟩
  · have pairs : s.toList.IsChain fun a b => a ≠ ',' ∧ b ≠ ',' := by
      refine List.Pairwise.isChain (List.pairwise_of_forall_mem_list ?_)
      intro a ha b hb
      exact ⟨inner ha, inner hb⟩
    refine pairs.imp fun a b hab => ?_
    simp [fit, hab.1, hab.2]
  · exact inner (List.mem_of_mem_head? hc)
  · exact inner (List.mem_of_mem_getLast? hc)

/-- Texts that end their lists can be put one behind the other. -/
theorem Separated.append {s t : String} (hs : Separated s) (ht : Separated t) :
    Separated (s ++ t) := by
  obtain ⟨chain, head, last⟩ := separated_iff.mp hs
  obtain ⟨chain', head', last'⟩ := separated_iff.mp ht
  rw [separated_iff, String.toList_append, List.isChain_append]
  refine ⟨⟨chain, chain', fun a ha b hb => ?_⟩, ?_, ?_⟩
  · simp [fit, last a ha, head' b hb]
  · intro c hc
    rw [List.head?_append] at hc
    rcases Option.or_eq_some_iff.mp hc with hc | ⟨-, hc⟩
    · exact head c hc
    · exact head' c hc
  · intro c hc
    rw [List.getLast?_append] at hc
    rcases Option.or_eq_some_iff.mp hc with hc | ⟨-, hc⟩
    · exact last' c hc
    · exact last c hc

/-- Whether a character belongs to an element of a list. -/
def isSolid (c : Char) : Bool := !opensList c && !closesList c

theorem fit_of_isSolid_left {a : Char} (h : isSolid a = true) (b : Char) : fit a b = true := by
  have comma : a ≠ ',' := by
    rintro rfl
    cases h
  simp only [isSolid, Bool.and_eq_true, Bool.not_eq_true'] at h
  simp [fit, h.1, comma]

theorem fit_of_isSolid_right {b : Char} (h : isSolid b = true) (a : Char) : fit a b = true := by
  have comma : b ≠ ',' := by
    rintro rfl
    cases h
  simp only [isSolid, Bool.and_eq_true, Bool.not_eq_true'] at h
  simp [fit, h.2, comma]

/-- An element of a list: there is something, and it has no mark of a list in it. -/
def IsElement (s : String) : Prop := s ≠ "" ∧ ∀ c ∈ s.toList, isSolid c = true

instance (s : String) : Decidable (IsElement s) :=
  decidable_of_iff (s ≠ "" ∧ s.toList.all isSolid = true) (and_congr_right' List.all_eq_true)

theorem IsElement.notMem {s : String} (h : IsElement s) {c : Char} (hc : isSolid c = false) :
    c ∉ s.toList := by
  intro hm
  rw [h.2 c hm] at hc
  cases hc

theorem IsElement.exists_head {s : String} (h : IsElement s) :
    ∃ c rest, s.toList = c :: rest ∧ isSolid c = true := by
  cases hs : s.toList with
  | nil => exact absurd (String.toList_eq_nil_iff.mp hs) h.1
  | cons c rest => exact ⟨c, rest, rfl, h.2 c (hs ▸ List.mem_cons_self)⟩

/-- Elements that are joined by commas begin like the first of them. -/
theorem head?_intercalate {part : String} (h : IsElement part) (rest : List String) :
    (",".intercalate (part :: rest)).toList.head? = part.toList.head? := by
  obtain ⟨c, tail, hp, -⟩ := h.exists_head
  rcases rest with _ | ⟨next, rest⟩
  · rw [String.intercalate_singleton]
  · rw [String.intercalate_cons_cons, String.append_assoc, String.toList_append, hp,
      List.cons_append, List.head?_cons, List.head?_cons]

/-- **Elements that are joined by commas make a list without empty elements.** -/
theorem separated_intercalate {parts : List String} (h : ∀ part ∈ parts, IsElement part) :
    Separated (",".intercalate parts) := by
  induction parts with
  | nil => simpa using separated_of_notMem List.not_mem_nil
  | cons part rest ih =>
    obtain ⟨first, others⟩ := List.forall_mem_cons.mp h
    have alone : Separated part := separated_of_notMem (first.notMem rfl)
    rcases rest with _ | ⟨next, rest⟩
    · simpa using alone
    · obtain ⟨chain, head, -⟩ := separated_iff.mp alone
      obtain ⟨chain', -, last⟩ := separated_iff.mp (ih others)
      obtain ⟨b, _, hp, -⟩ := first.exists_head
      obtain ⟨c, _, hn, solid⟩ := (others next List.mem_cons_self).exists_head
      obtain ⟨tail, ht⟩ : ∃ tail, (",".intercalate (next :: rest)).toList = c :: tail := by
        refine List.head?_eq_some_iff.mp ?_
        rw [head?_intercalate (others next List.mem_cons_self) rest, hn, List.head?_cons]
      have joined : (",".intercalate (part :: next :: rest)).toList =
          part.toList ++ ',' :: c :: tail := by
        rw [String.intercalate_cons_cons, String.append_assoc, String.toList_append,
          String.toList_append, ht]
        rfl
      rw [ht] at chain' last
      rw [separated_iff, joined, List.isChain_append]
      -- There is a solid character on both sides of the comma.
      refine ⟨⟨chain, ?_, ?_⟩, ?_, ?_⟩
      · exact List.isChain_cons_cons.mpr ⟨fit_of_isSolid_right solid ',', chain'⟩
      · intro a ha b _
        exact fit_of_isSolid_left (first.2 a (List.mem_of_mem_getLast? ha)) b
      · intro a ha
        rw [hp] at head ha
        exact head a ha
      · intro a ha
        rw [List.getLast?_append] at ha
        exact last a (by simpa using ha)

/-- Elements that are joined by commas are found again. -/
theorem pieces_joined {parts : List String} (hne : parts ≠ [])
    (h : ∀ part ∈ parts, IsElement part) : pieces ',' (",".intercalate parts) = parts :=
  pieces_intercalate hne fun part hm => (h part hm).notMem rfl

/-! ### Texts that begin no list -/

/-- A text that begins no list: there is no brace in it, and the word `SET` does not begin in it,
whatever follows. -/
structure Plain (s : String) : Prop where
  /-- There is no opening brace. -/
  unbraced : '\x7b' ∉ s.toList
  /-- No blank is in front of an `S`, or at the end. -/
  unset : (s.toList ++ ['S']).IsChain fun a b => a = ' ' → b ≠ 'S'
  /-- The text ends its lists. -/
  separated : Separated s

instance (s : String) : Decidable (Plain s) :=
  decidable_of_iff ('\x7b' ∉ s.toList ∧
      ((s.toList ++ ['S']).IsChain fun a b => a = ' ' → b ≠ 'S') ∧ Separated s)
    ⟨fun h => ⟨h.1, h.2.1, h.2.2⟩, fun h => ⟨h.1, h.2, h.3⟩⟩

theorem insidesIn_append {xs : List Char} (h : '\x7b' ∉ xs) (ys : List Char) :
    insidesIn (xs ++ ys) = insidesIn ys := by
  induction xs with
  | nil => rfl
  | cons c xs ih =>
    obtain ⟨hc, hx⟩ := not_or.mp (mt List.mem_cons.mpr h)
    rw [List.cons_append, insidesIn, if_neg (Ne.symm hc), ih hx]

theorem insidesIn_braced {xs : List Char} (h : '\x7b' ∉ xs) (h' : '\x7d' ∉ xs) (ys : List Char) :
    insidesIn ('\x7b' :: (xs ++ '\x7d' :: ys)) = String.ofList xs :: insidesIn ys := by
  have closing : insidesIn (['\x7d'] ++ ys) = insidesIn ys := insidesIn_append (by decide) ys
  rw [insidesIn, if_pos rfl, takeWhile_upTo h' (by simp), insidesIn_append h]
  exact congrArg _ closing

theorem listsIn_append {xs : List Char}
    (h : (xs ++ ['S']).IsChain fun a b => a = ' ' → b ≠ 'S') (ys : List Char) :
    listsIn (xs ++ ys) = listsIn ys := by
  induction xs with
  | nil => rfl
  | cons c xs ih =>
    rw [List.cons_append, List.isChain_cons] at h
    have unmarked : ¬ setMark <+: c :: (xs ++ ys) := by
      rintro ⟨after, ha⟩
      obtain ⟨hc, hs⟩ := List.cons_eq_cons.mp ha
      -- A blank with the mark behind it has an `S` behind it, in the text or at its end.
      rcases xs with _ | ⟨d, xs⟩
      · exact h.1 'S' rfl hc.symm rfl
      · obtain ⟨hd, -⟩ := List.cons_eq_cons.mp hs
        exact h.1 d rfl hc.symm hd.symm
    rw [List.cons_append, listsIn, if_neg unmarked, ih h.2]

/-- Where there is no blank, the word `SET` does not begin. -/
theorem unset_of_notMem {xs : List Char} (h : ' ' ∉ xs) :
    (xs ++ ['S']).IsChain fun a b => a = ' ' → b ≠ 'S' := by
  have inner : (xs ++ ['S']).IsChain fun a _ => a ≠ ' ' := by
    refine List.Pairwise.isChain (List.pairwise_of_forall_mem_list ?_)
    intro a ha _ _
    rcases List.mem_append.mp ha with ha | ha
    · exact fun e => h (e ▸ ha)
    · rw [List.mem_singleton.mp ha]
      decide
  exact inner.imp fun a b ha hb => absurd hb ha

theorem listsIn_set {xs : List Char} (h : ' ' ∉ xs) (hs : xs.head? ≠ some 'S')
    {ys : List Char} (hy : ys = [] ∨ ys.head? = some ' ') :
    listsIn (setMark ++ (xs ++ ys)) = String.ofList xs :: listsIn ys := by
  have upTo : (xs ++ ys).takeWhile (· ≠ ' ') = xs := by
    refine takeWhile_upTo h fun c hc => ?_
    rcases hy with rfl | hy
    · cases hc
    · exact (Option.some.inj (hy.symm.trans hc)).symm
  have word : listsIn (['S', 'E', 'T'] ++ (' ' :: (xs ++ ys))) = listsIn (' ' :: (xs ++ ys)) :=
    listsIn_append (by decide) _
  -- The blank that ends the mark does not begin another one.
  have once : ¬ setMark <+: ' ' :: (xs ++ ys) := by
    rintro ⟨after, ha⟩
    obtain ⟨-, hx⟩ := List.cons_eq_cons.mp ha
    rcases xs with _ | ⟨c, xs⟩
    · rcases hy with rfl | hy
      · cases hx
      · obtain ⟨rest, rfl⟩ := List.head?_eq_some_iff.mp hy
        cases hx
    · obtain ⟨rfl, -⟩ := List.cons_eq_cons.mp hx
      exact hs rfl
  have here : setMark <+: ' ' :: (['S', 'E', 'T', ' '] ++ (xs ++ ys)) :=
    List.prefix_append setMark (xs ++ ys)
  have marked : listsIn (setMark ++ (xs ++ ys)) =
      String.ofList ((xs ++ ys).takeWhile (· ≠ ' ')) ::
        listsIn (['S', 'E', 'T'] ++ (' ' :: (xs ++ ys))) := by
    rw [setMark, List.cons_append, listsIn, if_pos here]
    rfl
  rw [marked, upTo, word, listsIn, if_neg once, listsIn_append (unset_of_notMem h)]

/-! ### Filled texts -/

/-- A text in which no list is begun and no blank stands. -/
theorem plain_of_solid {s : String} (h : ∀ c ∈ s.toList, isSolid c = true) : Plain s := by
  have notMem {c : Char} (hc : isSolid c = false) : c ∉ s.toList := by
    intro hm
    rw [h c hm] at hc
    cases hc
  exact ⟨notMem rfl, unset_of_notMem (notMem rfl), separated_of_notMem (notMem rfl)⟩

/-- Elements that are joined by commas hold no other mark of a list. -/
theorem notMem_intercalate_of_isElement {parts : List String}
    (h : ∀ part ∈ parts, IsElement part) {c : Char} (hc : isSolid c = false) (hs : c ≠ ',') :
    c ∉ (",".intercalate parts).toList := by
  refine Clause.notMem_intercalate ?_ fun part hm => (h part hm).notMem hc
  simpa using hs

/-- Entries, and at least one. -/
structure AreEntries (parts : List String) : Prop where
  /-- There is one. -/
  ne_nil : parts ≠ []
  /-- Each is an element of a list. -/
  element : ∀ part ∈ parts, IsElement part
  /-- Each is an entry. -/
  entry : ∀ part ∈ parts, IsEntry part

theorem AreEntries.append {parts others : List String} (h : AreEntries parts)
    (h' : AreEntries others) : AreEntries (parts ++ others) := by
  refine ⟨by simp [h.ne_nil], ?_, ?_⟩
  · exact List.forall_mem_append.mpr ⟨h.element, h'.element⟩
  · exact List.forall_mem_append.mpr ⟨h.entry, h'.entry⟩

/-- What is set: elements, of which the first does not begin with an `S`, as the word `SET`
does. -/
structure AreSet (Belongs : String → Prop) (parts : List String) : Prop where
  /-- Each is an element of a list. -/
  element : ∀ part ∈ parts, IsElement part
  /-- The list is not taken for the word. -/
  begins : (",".intercalate parts).toList.head? ≠ some 'S'
  /-- The list is what is to be set. -/
  set : Belongs (",".intercalate parts)

namespace Filled

variable {Belongs : String → Prop} {s t : String}

theorem of_none (hi : insides s = []) (hl : setLists s = []) (hs : Separated s) :
    Filled Belongs s := by
  refine ⟨?_, ?_, hs⟩
  · rw [hi]
    simp
  · rw [hl]
    simp

theorem of_plain (h : Plain s) : Filled Belongs s := by
  refine of_none ?_ ?_ h.separated
  · simpa [insides, insidesIn] using insidesIn_append h.unbraced []
  · simpa [setLists, listsIn] using listsIn_append h.unset []

theorem mono {Belongs' : String → Prop} (h : Filled Belongs s)
    (hS : ∀ list, Belongs list → Belongs' list) : Filled Belongs' s :=
  ⟨h.entries, fun list hl => hS list (h.sets list hl), h.separated⟩

/-- **A plain text in front changes nothing.** -/
theorem prepend (hs : Plain s) (ht : Filled Belongs t) : Filled Belongs (s ++ t) := by
  refine ⟨?_, ?_, hs.separated.append ht.separated⟩
  · rw [insides, String.toList_append, insidesIn_append hs.unbraced]
    exact ht.entries
  · rw [setLists, String.toList_append, listsIn_append hs.unset]
    exact ht.sets

/-- **A list of entries between braces.** -/
theorem braced {parts : List String} (hp : AreEntries parts) {rest : String}
    (hr : rest = "\x7d" ++ t) (ht : Filled Belongs t) :
    Filled Belongs ("\x7b" ++ (",".intercalate parts ++ rest)) := by
  subst hr
  have chars : ("\x7b" ++ (",".intercalate parts ++ ("\x7d" ++ t))).toList =
      '\x7b' :: ((",".intercalate parts).toList ++ '\x7d' :: t.toList) := by
    simp
  have unmarked {c : Char} (hc : isSolid c = false) (hs : c ≠ ',') :
      c ∉ (",".intercalate parts).toList := notMem_intercalate_of_isElement hp.element hc hs
  have gapless : ' ' ∉ '\x7b' :: ((",".intercalate parts).toList ++ ['\x7d']) := by
    simpa using unmarked rfl (by decide)
  refine ⟨?_, ?_, ?_⟩
  · rw [insides, chars, insidesIn_braced (unmarked rfl (by decide)) (unmarked rfl (by decide))]
    intro inside hi
    rcases List.mem_cons.mp hi with rfl | hi
    · rw [String.ofList_toList, pieces_joined hp.ne_nil hp.element]
      exact hp.entry
    · exact ht.entries inside hi
  · have skipped : listsIn ('\x7b' :: ((",".intercalate parts).toList ++ '\x7d' :: t.toList)) =
        listsIn t.toList := by
      simpa using listsIn_append (unset_of_notMem gapless) t.toList
    rw [setLists, chars, skipped]
    exact ht.sets
  · have opening : Separated "\x7b" := separated_of_notMem (by decide)
    have closing : Separated "\x7d" := separated_of_notMem (by decide)
    exact opening.append
      ((separated_intercalate hp.element).append (closing.append ht.separated))

/-- **A list behind the word `SET`.** -/
theorem set {parts : List String} (hp : AreSet Belongs parts)
    (gap : t = "" ∨ t.toList.head? = some ' ') (ht : Filled Belongs t) :
    Filled Belongs (" SET " ++ (",".intercalate parts ++ t)) := by
  have unmarked {c : Char} (hc : isSolid c = false) (hs : c ≠ ',') :
      c ∉ (",".intercalate parts).toList := notMem_intercalate_of_isElement hp.element hc hs
  have chars : (" SET " ++ (",".intercalate parts ++ t)).toList =
      setMark ++ ((",".intercalate parts).toList ++ t.toList) := by
    simp [setMark]
  have mark : Separated " SET " := separated_of_notMem (by decide)
  refine ⟨?_, ?_, mark.append ((separated_intercalate hp.element).append ht.separated)⟩
  · rw [insides, chars, insidesIn_append (by decide),
      insidesIn_append (unmarked rfl (by decide))]
    exact ht.entries
  · rw [setLists, chars, listsIn_set (unmarked rfl (by decide)) hp.begins
      (gap.imp_left String.toList_eq_nil_iff.mpr)]
    intro list hl
    rcases List.mem_cons.mp hl with rfl | hl
    · rw [String.ofList_toList]
      exact hp.set
    · exact ht.sets list hl

end Filled

end GraphMapper.Statement
