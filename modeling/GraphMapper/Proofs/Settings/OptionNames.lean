import GraphMapper.Settings.OptionName
import Mathlib.Data.List.Basic

/-!
# Which keys stand for which option

Keys are compared after they have been brought to small letters, words kept apart by underscores.
Two spellings that differ in the letter case of ASCII letters only (`GraphMapper.Recased`) agree in
their letters, so what they stand for is a matter of where their words start
(`GraphMapper.OptionName.ofKey_eq_iff`).

What comes out is **settled** (`GraphMapper.Text.settled_of_mem_lowered`): brought to small letters
once more, it does not turn into an ASCII text that it was not before. One letter beyond ASCII has
a small form in ASCII, the sign for kelvin, and no letter has this sign for its small form.
-/

namespace GraphMapper

/-! ### Small forms -/

namespace Text

/-- The sign for kelvin, whose small form is the letter k. -/
def kelvin : Nat := 0x212a

theorem forall_ascii {P : Char → Prop} (h : ∀ n < 128, P (Char.ofNat n)) {c : Char}
    (hc : c.toNat < 128) : P c := by
  simpa using h c.toNat hc

theorem toLower_ascii {c : Char} (h : c.toNat < 128) :
    c.toLower.toNat < 128 ∧ c.toLower.toLower = c.toLower :=
  forall_ascii (P := fun c => c.toLower.toNat < 128 ∧ c.toLower.toLower = c.toLower)
    (by decide +kernel) h

theorem toLower_beyond {c : Char} (h : 128 ≤ c.toNat) : c.toLower = c := by
  unfold Char.toLower
  split
  · next upper =>
    have last : c.val.toNat ≤ 90 := upper.2
    exact absurd last (by change ¬ c.toNat ≤ 90; omega)
  · rfl

theorem lowered_ascii {c : Char} (h : c.toNat < 128) : lowered c = [c.toLower] := by
  rw [lowered, if_pos h]

/-- What the table of small forms comes to, but for the sign for kelvin: letters beyond ASCII, and
none of them the sign for kelvin. -/
theorem smallForms_beyond : ∀ s ∈ smallForms, s.2.1 < 128 ∨ (s.1 = kelvin ∧ s.2.1 = kelvin) ∨
    (128 ≤ s.1 + s.2.2.2 ∧
      (s.2.1 + s.2.2.2 < 0xd800 ∨ 0xe000 ≤ s.1 + s.2.2.2 ∧ s.2.1 + s.2.2.2 < 0x110000) ∧
      Span.contains ⟨s.1, s.2.1, s.2.2.1⟩ (Int.toNat (kelvin - s.2.2.2)) = false) := by
  decide +kernel

/-- **Small forms of letters beyond ASCII.** -/
theorem lowered_beyond {c : Char} (h : 128 ≤ c.toNat) :
    lowered c = ['i', Char.ofNat 0x307] ∨ (c.toNat = kelvin ∧ lowered c = ['k']) ∨
      ∃ d, lowered c = [d] ∧ 128 ≤ d.toNat ∧ d.toNat ≠ kelvin := by
  by_cases hk : c.toNat = kelvin
  · obtain rfl : c = Char.ofNat kelvin := by rw [← hk, Char.ofNat_toNat]
    exact .inr (.inl ⟨rfl, by decide +kernel⟩)
  rw [lowered, if_neg (by omega)]
  split
  · exact .inl rfl
  refine .inr (.inr ?_)
  split
  · next s hs =>
    have within := List.find?_some hs
    obtain ⟨⟨first, last⟩, -⟩ : (s.1 ≤ c.toNat ∧ c.toNat ≤ s.2.1) ∧
        (c.toNat - s.1) % s.2.2.1 = 0 := by
      simpa [Span.contains] using within
    rcases smallForms_beyond s (List.mem_of_find?_eq_some hs) with
      small | ⟨hf, hl⟩ | ⟨low, valid, other⟩
    · omega
    · omega
    · have image : (Char.ofNat (Int.toNat (c.toNat + s.2.2.2))).toNat =
          Int.toNat (c.toNat + s.2.2.2) := by
        have valid : (Int.toNat (c.toNat + s.2.2.2)).isValidChar := by
          simp only [Nat.isValidChar]
          omega
        rw [Char.ofNat, dif_pos valid]
        rfl
      refine ⟨_, rfl, by omega, fun he => ?_⟩
      have source : Int.toNat (kelvin - s.2.2.2) = c.toNat := by omega
      rw [source] at other
      exact absurd within (by rw [other]; decide)
  · exact ⟨c, rfl, h, hk⟩

/-- A character whose small form, if that is an ASCII character, is the character itself. -/
def Settled (c : Char) : Prop := ∀ d, lowered c = [d] → d.toNat < 128 → c = d

/-- **Small letters are settled.** -/
theorem settled_of_mem_lowered {c d : Char} (h : d ∈ lowered c) : Settled d := by
  have accent : lowered (Char.ofNat 0x307) = [Char.ofNat 0x307] := by decide +kernel
  intro e he small
  by_cases hc : c.toNat < 128
  · obtain ⟨hl, idem⟩ := toLower_ascii hc
    obtain rfl : d = c.toLower := by simpa [lowered_ascii hc] using h
    rw [lowered_ascii hl, idem] at he
    exact (List.cons.inj he).1
  rcases lowered_beyond (Nat.le_of_not_lt hc) with hl | ⟨-, hl⟩ | ⟨d', hl, beyond, other⟩
  · rw [hl, List.mem_cons, List.mem_singleton] at h
    rcases h with rfl | rfl
    · exact (List.cons.inj he).1
    · rw [accent] at he
      exact (List.cons.inj he).1
  · rw [hl, List.mem_singleton] at h
    rw [h] at he ⊢
    exact (List.cons.inj he).1
  · rw [hl, List.mem_singleton] at h
    subst h
    rcases lowered_beyond beyond with hd | ⟨hd, -⟩ | ⟨d', hd, beyond', -⟩
    · rw [hd] at he
      cases he
    · exact absurd hd other
    · rw [hd] at he
      obtain rfl := (List.cons.inj he).1
      omega

/-- A letter and its small form are the same for both letter cases of an ASCII letter. -/
theorem lowered_congr {c d : Char} (h : c.toLower = d.toLower) : lowered c = lowered d := by
  by_cases hc : c.toNat < 128 <;> by_cases hd : d.toNat < 128
  · rw [lowered_ascii hc, lowered_ascii hd, h]
  · have := (toLower_ascii hc).1
    rw [h, toLower_beyond (by omega)] at this
    exact absurd this hd
  · have := (toLower_ascii hd).1
    rw [← h, toLower_beyond (by omega)] at this
    exact absurd this hc
  · rw [toLower_beyond (by omega), toLower_beyond (by omega)] at h
    rw [h]

theorem lowered_ne_nil (c : Char) : lowered c ≠ [] := by
  by_cases hc : c.toNat < 128
  · rw [lowered_ascii hc]
    exact List.cons_ne_nil _ _
  · rcases lowered_beyond (Nat.le_of_not_lt hc) with h | ⟨-, h⟩ | ⟨d, h, -⟩
    all_goals
      rw [h]
      exact List.cons_ne_nil _ _

/-- A capital has no underscore for its small form. -/
theorem underscore_notMem_lowered {c : Char} (h : isCapital c = true) : '_' ∉ lowered c := by
  by_cases hc : c.toNat < 128
  · rw [lowered_ascii hc, List.mem_singleton]
    refine forall_ascii (P := fun c => isCapital c = true → '_' ≠ c.toLower)
      (by decide +kernel) hc h
  · rcases lowered_beyond (Nat.le_of_not_lt hc) with hl | ⟨-, hl⟩ | ⟨d, hl, hd, -⟩
    · rw [hl]
      decide
    · rw [hl]
      decide
    · rw [hl, List.mem_singleton]
      rintro rfl
      exact absurd hd (by decide)

/-- What is made of settled characters is its own small form, if that is in ASCII. -/
theorem eq_of_flatMap_lowered {xs ys : List Char} (settled : ∀ x ∈ xs, Settled x)
    (h : xs.flatMap lowered = ys) (small : ∀ y ∈ ys, y.toNat < 128) : xs = ys := by
  induction xs generalizing ys with
  | nil => exact h
  | cons x rest ih =>
    obtain ⟨hx, hrest⟩ := List.forall_mem_cons.mp settled
    rw [List.flatMap_cons] at h
    -- All of the small form of a character is in ASCII, so it is one character.
    have one : ∃ e, lowered x = [e] := by
      by_cases hc : x.toNat < 128
      · exact ⟨_, lowered_ascii hc⟩
      · rcases lowered_beyond (Nat.le_of_not_lt hc) with hl | ⟨-, hl⟩ | ⟨d, hl, -⟩
        · have accent := small (Char.ofNat 0x307) (by rw [← h, hl]; simp)
          exact absurd accent (by decide)
        · exact ⟨_, hl⟩
        · exact ⟨d, hl⟩
    obtain ⟨e, he⟩ := one
    rw [he, List.singleton_append] at h
    subst h
    obtain ⟨hs, others⟩ := List.forall_mem_cons.mp small
    exact List.cons_eq_cons.mpr ⟨hx e he hs, ih hrest rfl others⟩

end Text

/-! ### Words of a key -/

/-- Two spellings that differ in the letter case of ASCII letters only. -/
def Recased (key key' : String) : Prop :=
  key.toList.map Char.toLower = key'.toList.map Char.toLower

instance (key key' : String) : Decidable (Recased key key') :=
  inferInstanceAs (Decidable (_ = _))

namespace OptionName

/-- Behind which characters of the rest of a key a word starts. -/
def startsFrom (previous : Char) : List Char → List Bool
  | [] => []
  | c :: rest => startsWord previous c :: startsFrom c rest

/-- Where the words of a key start, behind the first of them. -/
def wordStarts (key : String) : List Bool :=
  match key.toList with
  | [] => []
  | c :: rest => startsFrom c rest

/-- By induction: as long as words start at the same places, the same comes out. Where a word starts
in one spelling only, an underscore stands in one against a letter in the other. -/
theorem continued_eq_iff {cs ds : List Char} (h : cs.map Char.toLower = ds.map Char.toLower)
    (p q : Char) : continued p cs = continued q ds ↔ startsFrom p cs = startsFrom q ds := by
  induction cs generalizing ds p q with
  | nil =>
    obtain rfl : ds = [] := by simpa using h.symm
    exact ⟨fun _ => rfl, fun _ => rfl⟩
  | cons c cs ih =>
    rcases ds with _ | ⟨d, ds⟩
    · cases h
    obtain ⟨letter, rest⟩ := List.cons.inj h
    have same := Text.lowered_congr letter
    have starts {x y : Char} {tail tail' : List Char} (hx : startsWord x y = true) :
        ¬ ['_'] ++ Text.lowered y ++ tail = Text.lowered y ++ tail' := by
      intro he
      obtain ⟨a, as, ha⟩ := List.exists_cons_of_ne_nil (Text.lowered_ne_nil y)
      rw [ha] at he
      obtain rfl := (List.cons.inj he).1
      have capital : Text.isCapital y = true := by
        simp only [startsWord, Bool.and_eq_true] at hx
        exact hx.1.1
      exact Text.underscore_notMem_lowered capital (by rw [ha]; exact List.mem_cons_self)
    rw [continued, continued, startsFrom, startsFrom, List.cons.injEq, ← ih rest]
    cases hc : startsWord p c <;> cases hd : startsWord q d
    · simp [same]
    · rw [same]
      simpa using fun he => starts hd he.symm
    · rw [← same]
      simpa using starts hc
    · simp [same]

/-- **What a key stands for**: spellings that differ in letter case stand for the same if their
words start at the same places. -/
theorem ofKey_eq_iff {key key' : String} (h : Recased key key') :
    ofKey key = ofKey key' ↔ wordStarts key = wordStarts key' := by
  unfold ofKey wordStarts
  rw [← String.toList_inj, String.toList_ofList, String.toList_ofList]
  unfold Recased at h
  generalize key.toList = cs at h ⊢
  generalize key'.toList = ds at h ⊢
  rcases cs with _ | ⟨c, cs⟩ <;> rcases ds with _ | ⟨d, ds⟩
  · simp
  · cases h
  · cases h
  · obtain ⟨letter, rest⟩ := List.cons.inj h
    simp only [normalized, Text.lowered_congr letter, List.append_cancel_left_eq]
    exact continued_eq_iff rest c d

/-- By induction: a character is an underscore, or comes from one of the key. -/
theorem mem_continued {cs : List Char} {p d : Char} (h : d ∈ continued p cs) :
    d = '_' ∨ ∃ c ∈ cs, d ∈ Text.lowered c := by
  induction cs generalizing p with
  | nil => cases h
  | cons c cs ih =>
    rw [continued, List.mem_append, List.mem_append] at h
    rcases h with (h | h) | h
    · refine .inl ?_
      split at h
      · exact List.mem_singleton.mp h
      · cases h
    · exact .inr ⟨c, List.mem_cons_self, h⟩
    · exact (ih h).imp_right fun ⟨c, hc, hd⟩ => ⟨c, List.mem_cons_of_mem _ hc, hd⟩

theorem mem_ofKey {key : String} {d : Char} (h : d ∈ (ofKey key).toList) :
    d = '_' ∨ ∃ c ∈ key.toList, d ∈ Text.lowered c := by
  rw [ofKey, String.toList_ofList] at h
  cases hk : key.toList with
  | nil =>
    rw [hk] at h
    cases h
  | cons c cs =>
    rw [hk, normalized, List.mem_append] at h
    rcases h with h | h
    · exact .inr ⟨c, List.mem_cons_self, h⟩
    · exact (mem_continued h).imp_right fun ⟨c, hc, hd⟩ => ⟨c, List.mem_cons_of_mem _ hc, hd⟩

/-- What stands for an option is made of small letters and underscores. -/
theorem settled_of_mem_resolved {key : String} {c : Char} (h : c ∈ (resolved key).toList) :
    Text.Settled c := by
  have settled {c : Char} (h : c ∈ (ofKey key).toList) : Text.Settled c := by
    rcases mem_ofKey h with rfl | ⟨d, -, hc⟩
    · intro e he _
      exact (List.cons.inj he).1
    · exact Text.settled_of_mem_lowered hc
  have named : resolved key = ofKey key ∨ resolved key = "username" := by
    simp only [resolved, aliases, List.lookup_cons, List.lookup_nil]
    split
    · exact .inr rfl
    · exact .inl rfl
  rcases named with he | he
  · exact settled (he ▸ h)
  · -- The other name of an option is in small letters.
    have name : ("username".toList.all fun c => (Text.lowered c).contains c) = true := by decide
    exact Text.settled_of_mem_lowered
      (List.contains_iff_mem.mp (List.all_eq_true.mp name c (he ▸ h)))

/-- **An option has one name**: brought to small letters, what a key stands for is an ASCII text
only if it was that text before. -/
theorem eq_of_lowercase_resolved {key name : String} (h : Text.lowercase (resolved key) = name)
    (small : ∀ c ∈ name.toList, c.toNat < 128) : resolved key = name := by
  refine String.toList_inj.mp (Text.eq_of_flatMap_lowered (fun _ => settled_of_mem_resolved) ?_
    small)
  rw [← h, Text.lowercase, String.toList_ofList]

end OptionName

end GraphMapper
