import GraphMapper.Value
import Mathlib

/-!
# Equality of values

Values are compared as numbers where they are numbers, so equality is no identity: `true`, `1` and
`1.0` are all equal, and a not-a-number is not even equal to itself. Two things hold all the same,
and whoever looks for the first of some values that is equal to another relies on them. Equality
passes on (`GraphMapper.Value.equal_trans`), and a value that is equal to anything is equal to
itself (`GraphMapper.Value.equal_self`).

Among the numbers this comes down to floats: those that are equal to an integer are equal to one
another (`GraphMapper.Decimal.beq_of_wholeFloat?`), as the digits of a float are determined by the
number it stands for.
-/

namespace GraphMapper

namespace Decimal

/-! ### Floats as integers -/

/-- The size of a number that is whole, in units of a small power of two. -/
theorem Dyadic.toInt?_eq_some {d : Dyadic} {i : Int} (h : d.toInt? = some i) {k : Nat}
    (hk : -(k : Int) ≤ d.exponent) :
    i = (if d.negative then -(i.natAbs : Int) else i.natAbs) ∧
      i.natAbs * 2 ^ k = d.significand * 2 ^ (d.exponent + k).toNat := by
  obtain ⟨negative, significand, exponent⟩ := d
  have signed (n : Nat) : (if negative then -(n : Int) else n).natAbs = n := by
    cases negative <;> simp
  cases exponent with
  | ofNat e =>
    obtain rfl := Option.some.inj h
    have shift : (Int.ofNat e + k).toNat = e + k := Int.toNat_natCast (e + k)
    refine ⟨by rw [signed], ?_⟩
    rw [signed, shift, pow_add, ← mul_assoc]
    rfl
  | negSucc e =>
    simp only [toInt?] at h
    split at h
    · next divides =>
      obtain rfl := Option.some.inj h
      have shift : (Int.negSucc e + k).toNat + (e + 1) = k := by
        have : -(k : Int) ≤ Int.negSucc e := hk
        omega
      refine ⟨by rw [signed], ?_⟩
      rw [signed]
      calc significand / 2 ^ (e + 1) * 2 ^ k
        _ = significand / 2 ^ (e + 1) * 2 ^ (e + 1) * 2 ^ (Int.negSucc e + k).toNat := by
            rw [mul_assoc, ← pow_add, add_comm (e + 1), shift]
        _ = significand * 2 ^ (Int.negSucc e + k).toNat := by
            have divides : 2 ^ (e + 1) ∣ significand := Nat.dvd_of_mod_eq_zero divides
            rw [Nat.div_mul_cancel divides]
    · cases h

/-- The size of a finite float in units of the least one, from the digits of its exponent and its
fraction. -/
def scaled (biased fraction : Nat) : Nat :=
  if biased = 0 then fraction else (2 ^ 52 + fraction) * 2 ^ (biased - 1)

/-- The size determines the digits. -/
theorem scaled_injective {biased fraction biased' fraction' : Nat} (h : fraction < 2 ^ 52)
    (h' : fraction' < 2 ^ 52) (same : scaled biased fraction = scaled biased' fraction') :
    biased = biased' ∧ fraction = fraction' := by
  -- A greater exponent is a greater size, whatever the fractions are.
  have lt {b m b' m' : Nat} (hm : m < 2 ^ 52) (hb : b < b') : scaled b m < scaled b' m' := by
    unfold scaled
    rw [if_neg (by omega : ¬ b' = 0)]
    have least : 2 ^ 52 * 2 ^ (b' - 1) ≤ (2 ^ 52 + m') * 2 ^ (b' - 1) :=
      Nat.mul_le_mul_right _ (by omega)
    split
    · have : 1 ≤ 2 ^ (b' - 1) := Nat.one_le_two_pow
      omega
    · have step : 2 * 2 ^ (b - 1) ≤ 2 ^ (b' - 1) := by
        rw [← pow_succ']
        exact Nat.pow_le_pow_right (by decide) (by omega)
      have most : (2 ^ 52 + m) * 2 ^ (b - 1) < (2 * 2 ^ 52) * 2 ^ (b - 1) :=
        Nat.mul_lt_mul_of_pos_right (by omega) (by positivity)
      calc (2 ^ 52 + m) * 2 ^ (b - 1)
        _ < 2 ^ 52 * (2 * 2 ^ (b - 1)) := by rw [← mul_assoc, mul_comm (2 ^ 52)]; exact most
        _ ≤ 2 ^ 52 * 2 ^ (b' - 1) := Nat.mul_le_mul_left _ step
        _ ≤ (2 ^ 52 + m') * 2 ^ (b' - 1) := least
  obtain rfl : biased = biased' := by
    rcases Nat.lt_trichotomy biased biased' with less | equal | greater
    · exact absurd same (lt h less).ne
    · exact equal
    · exact absurd same (lt h' greater).ne'
  refine ⟨rfl, ?_⟩
  unfold scaled at same
  split at same
  · exact same
  · have := Nat.eq_of_mul_eq_mul_right (by positivity) same
    omega

/-- What the digits of a float say if it is equal to an integer. -/
theorem digits_of_wholeFloat? {x : Float} {i : Int} (h : wholeFloat? x = some i) :
    ∃ negative : Bool, ∃ biased fraction : Nat, fraction < 2 ^ 52 ∧ biased < 2047 ∧
      x.toBits.toNat = (if negative then 2 ^ 63 else 0) + biased * 2 ^ 52 + fraction ∧
      i = (if negative then -(i.natAbs : Int) else i.natAbs) ∧
      i.natAbs * 2 ^ 1074 = scaled biased fraction := by
  obtain ⟨d, hd, hi⟩ := Option.bind_eq_some_iff.mp h
  unfold Dyadic.ofFloat? at hd
  have bits : x.toBits.toNat < 2 ^ 64 := x.toBits.toNat_lt
  generalize x.toBits.toNat = n at hd bits ⊢
  have sign : n / 2 ^ 63 * 2 ^ 63 = if (n / 2 ^ 63 == 1) = true then 2 ^ 63 else 0 := by
    rcases Nat.lt_or_ge n (2 ^ 63) with small | large
    · rw [Nat.div_eq_of_lt small]
      rfl
    · rw [show n / 2 ^ 63 = 1 by omega]
      rfl
  refine ⟨n / 2 ^ 63 == 1, n / 2 ^ 52 % 2 ^ 11, n % 2 ^ 52, Nat.mod_lt _ (by decide), ?_⟩
  dsimp only at hd
  split at hd
  · cases hd
  next finite =>
    have most : n / 2 ^ 52 % 2 ^ 11 < 2 ^ 11 := Nat.mod_lt _ (by decide)
    refine ⟨Nat.lt_of_le_of_ne (by omega) finite, by omega, ?_⟩
    split at hd
    · next zero =>
      obtain rfl := Option.some.inj hd
      obtain ⟨signed, size⟩ := Dyadic.toInt?_eq_some hi (k := 1074) (by dsimp only; omega)
      have zero : n / 2 ^ 52 % 2 ^ 11 = 0 := zero
      refine ⟨signed, ?_⟩
      rw [scaled, if_pos zero]
      exact size.trans (mul_one _)
    · next normal =>
      obtain rfl := Option.some.inj hd
      have normal : n / 2 ^ 52 % 2 ^ 11 ≠ 0 := normal
      obtain ⟨signed, size⟩ := Dyadic.toInt?_eq_some hi (k := 1074) (by dsimp only; omega)
      refine ⟨signed, ?_⟩
      rw [scaled, if_neg normal]
      have shift : (((n / 2 ^ 52 % 2 ^ 11 : Nat) : Int) - 1075 + 1074).toNat =
          n / 2 ^ 52 % 2 ^ 11 - 1 := by omega
      rw [← shift]
      exact size

/-- Only zero has both signs. -/
theorem eq_zero_of_signs {i : Int} {s s' : Bool}
    (h : i = if s then -(i.natAbs : Int) else i.natAbs)
    (h' : i = if s' then -(i.natAbs : Int) else i.natAbs) (apart : s ≠ s') : i = 0 := by
  cases s <;> cases s' <;> simp at * <;> omega

/-- Floats that are equal to an integer are equal to one another. -/
theorem beq_of_wholeFloat? {x y : Float} {i : Int} (hx : wholeFloat? x = some i)
    (hy : wholeFloat? y = some i) : (x == y) = true := by
  have finite {z : Float} (hz : wholeFloat? z = some i) : z ≠ Float.nan := by
    rintro rfl
    have : wholeFloat? Float.nan = none := by decide +kernel
    rw [this] at hz
    cases hz
  refine Float.beq_iff_ne_nan_and_eq.mpr ⟨finite hx, finite hy, ?_⟩
  obtain ⟨s, b, m, hm, -, bits, sign, size⟩ := digits_of_wholeFloat? hx
  obtain ⟨s', b', m', hm', -, bits', sign', size'⟩ := digits_of_wholeFloat? hy
  obtain ⟨rfl, rfl⟩ := scaled_injective hm hm' (size.symm.trans size')
  by_cases same : s = s'
  · -- With the same digits and the same sign they are the same float.
    left
    rw [← Float.toBits_inj, ← UInt64.toNat_inj, bits, bits', same]
  · -- An integer with both signs is zero, and so are the digits.
    right
    obtain rfl : i = 0 := eq_zero_of_signs sign sign' same
    have zero : scaled b m = scaled 0 0 := by
      generalize 2 ^ 1074 = unit at size
      rw [← size, Int.natAbs_zero, Nat.zero_mul]
      rfl
    obtain ⟨rfl, rfl⟩ := scaled_injective hm (by decide) zero
    have positive : (0 : Float).toBits.toNat = 0 := by decide +kernel
    have negative : (-0 : Float).toBits.toNat = 2 ^ 63 := by decide +kernel
    rw [← Float.toBits_inj, ← Float.toBits_inj, ← Float.toBits_inj, ← Float.toBits_inj,
      ← UInt64.toNat_inj, ← UInt64.toNat_inj, ← UInt64.toNat_inj, ← UInt64.toNat_inj, bits, bits',
      positive, negative]
    cases s with
    | true =>
      obtain rfl : s' = false := by simpa using Ne.symm same
      exact .inr ⟨rfl, rfl⟩
    | false =>
      obtain rfl : s' = true := by simpa using Ne.symm same
      exact .inl ⟨rfl, rfl⟩

/-- Equal floats are equal to the same integers. -/
theorem wholeFloat?_eq_of_beq {x y : Float} (h : (x == y) = true) :
    wholeFloat? x = wholeFloat? y := by
  have zeros : wholeFloat? 0 = wholeFloat? (-0) := by decide +kernel
  obtain ⟨-, -, rfl | ⟨rfl, rfl⟩ | ⟨rfl, rfl⟩⟩ := Float.beq_iff_ne_nan_and_eq.mp h
  · rfl
  · exact zeros
  · exact zeros.symm

end Decimal

namespace Value

/-! ### Equality -/

/-- A number is equal to what is equal to the same integer, and to nothing else. -/
theorem equal_iff_of_whole? {v w : Value} {i : Int} (hv : v.whole? = some i) :
    v.equal w = true ↔ w.whole? = some i := by
  cases v with
  | bool b =>
    obtain rfl := Option.some.inj hv
    simp [equal]
  | int j =>
    obtain rfl := Option.some.inj hv
    simp [equal]
  | float x =>
    have hx : Decimal.wholeFloat? x = some i := hv
    cases w with
    | float y =>
      constructor
      · intro h
        exact (Decimal.wholeFloat?_eq_of_beq h).symm.trans hx
      · intro hy
        exact Decimal.beq_of_wholeFloat? hx hy
    | _ => simp [equal, hx]
  | _ => cases hv

/-- A float that is equal to no integer is equal to floats only. -/
theorem equal_float_of_whole?_eq_none {x : Float} {w : Value}
    (hx : Decimal.wholeFloat? x = none) (h : (Value.float x).equal w = true) :
    ∃ y, w = .float y ∧ (x == y) = true := by
  cases w with
  | float y => exact ⟨y, rfl, h⟩
  | _ => simp [equal, hx] at h

theorem equal_float_trans {x : Float} {v w : Value} (h : (Value.float x).equal v = true)
    (h' : v.equal w = true) : (Value.float x).equal w = true := by
  cases hx : Decimal.wholeFloat? x with
  | some i =>
    have hv := (equal_iff_of_whole? (v := .float x) hx).mp h
    exact (equal_iff_of_whole? (v := .float x) hx).mpr ((equal_iff_of_whole? hv).mp h')
  | none =>
    obtain ⟨y, rfl, hy⟩ := equal_float_of_whole?_eq_none hx h
    have none : Decimal.wholeFloat? y = none := (Decimal.wholeFloat?_eq_of_beq hy).symm.trans hx
    obtain ⟨z, rfl, hz⟩ := equal_float_of_whole?_eq_none none h'
    exact PartialEquivBEq.trans hy hz

/-- Every entry has to have an equal among the others. -/
theorem equalEntries_iff {entries others : Entries} : equalEntries entries others = true ↔
    ∀ e ∈ entries, ∃ o ∈ others, e.1.equal o.1 = true ∧ e.2.equal o.2 = true := by
  induction entries with
  | nil => simp [equalEntries]
  | cons e rest ih => simp [equalEntries, ih]

mutual

/-- **Equality passes on.** By recursion on the first value, case by case. -/
theorem equal_trans : ∀ (u : Value) {v w : Value}, u.equal v = true → v.equal w = true →
    u.equal w = true
  | .null, v, w, h, h' => by
    cases v <;> simp [equal] at h
    exact h'
  | .bool b, v, w, h, h' => by
    have hv := (equal_iff_of_whole? (v := .bool b) rfl).mp h
    exact (equal_iff_of_whole? (v := .bool b) rfl).mpr ((equal_iff_of_whole? hv).mp h')
  | .int i, v, w, h, h' => by
    have hv := (equal_iff_of_whole? (v := .int i) rfl).mp h
    exact (equal_iff_of_whole? (v := .int i) rfl).mpr ((equal_iff_of_whole? hv).mp h')
  | .float x, v, w, h, h' => equal_float_trans h h'
  | .text s, v, w, h, h' => by
    cases v <;> simp [equal] at h
    exact h ▸ h'
  | .list items, v, w, h, h' => by
    cases v <;> simp [equal] at h
    cases w <;> simp [equal] at h'
    exact equalItems_trans items h h'
  | .map entries, v, w, h, h' => by
    cases v <;> simp [equal] at h
    cases w <;> simp [equal] at h'
    simp [equal, h.1, h'.1, equalEntries_trans entries h.2 h'.2]
  | .node entries, v, w, h, h' => by
    cases v <;> simp [equal] at h
    cases w <;> simp [equal] at h'
    simp [equal, h.1, h'.1, equalEntries_trans entries h.2 h'.2]
  | .itemized entries, v, w, h, h' => by
    cases v <;> simp [equal] at h
    cases w <;> simp [equal] at h'
    simp [equal, h.1, h'.1, equalEntries_trans entries h.2 h'.2]
  | .entity r attributes, v, w, h, h' => by
    cases v <;> simp [equal] at h
    cases w <;> simp [equal] at h'
    simp [equal, h.1, h'.1, equalAttributes_trans attributes h.2 h'.2]
  | .type n, v, w, h, h' => by
    cases v <;> simp [equal] at h
    exact h ▸ h'

theorem equalItems_trans : ∀ (us : List Value) {vs ws : List Value}, equalItems us vs = true →
    equalItems vs ws = true → equalItems us ws = true
  | [], vs, ws, h, h' => by
    obtain rfl : vs = [] := by simpa [equalItems] using h
    exact h'
  | u :: us, vs, ws, h, h' => by
    rcases vs with _ | ⟨v, vs⟩
    · simp [equalItems] at h
    rcases ws with _ | ⟨w, ws⟩
    · simp [equalItems] at h'
    simp only [equalItems, Bool.and_eq_true] at h h' ⊢
    exact ⟨equal_trans u h.1 h'.1, equalItems_trans us h.2 h'.2⟩

theorem equalEntries_trans : ∀ (us : Entries) {vs ws : Entries}, equalEntries us vs = true →
    equalEntries vs ws = true → equalEntries us ws = true
  | [], _, _, _, _ => rfl
  | (k, u) :: us, vs, ws, h, h' => by
    simp only [equalEntries, Bool.and_eq_true, List.any_eq_true] at h ⊢
    obtain ⟨⟨e, he, hk, hu⟩, h⟩ := h
    obtain ⟨o, ho, hk', hu'⟩ := equalEntries_iff.mp h' e he
    exact ⟨⟨o, ho, equal_trans k hk hk', equal_trans u hu hu'⟩, equalEntries_trans us h h'⟩

theorem equalAttributes_trans : ∀ (us : List (String × Value)) {vs ws : List (String × Value)},
    equalAttributes us vs = true → equalAttributes vs ws = true → equalAttributes us ws = true
  | [], vs, ws, h, h' => by
    obtain rfl : vs = [] := by simpa [equalAttributes] using h
    exact h'
  | (n, u) :: us, vs, ws, h, h' => by
    rcases vs with _ | ⟨⟨m, v⟩, vs⟩
    · simp [equalAttributes] at h
    rcases ws with _ | ⟨⟨l, w⟩, ws⟩
    · simp [equalAttributes] at h'
    simp only [equalAttributes, Bool.and_eq_true, beq_iff_eq] at h h' ⊢
    exact ⟨⟨h.1.1.trans h'.1.1, equal_trans u h.1.2 h'.1.2⟩, equalAttributes_trans us h.2 h'.2⟩

end

mutual

/-- **What is equal to anything is equal to itself.** -/
theorem equal_self : ∀ (u : Value) {v : Value}, u.equal v = true → u.equal u = true
  | .null, _, _ => rfl
  | .bool b, _, _ => (equal_iff_of_whole? (v := .bool b) rfl).mpr rfl
  | .int i, _, _ => (equal_iff_of_whole? (v := .int i) rfl).mpr rfl
  | .float x, v, h => by
    cases hx : Decimal.wholeFloat? x with
    | some i => exact (equal_iff_of_whole? (v := .float x) hx).mpr hx
    | none =>
      obtain ⟨y, rfl, hy⟩ := equal_float_of_whole?_eq_none hx h
      exact PartialEquivBEq.trans hy (PartialEquivBEq.symm hy)
  | .text s, _, _ => by simp [equal]
  | .list items, v, h => by
    cases v <;> simp [equal] at h
    exact equalItems_self items h
  | .map entries, v, h => by
    cases v <;> simp [equal] at h
    simp [equal, equalEntries_self entries h.2 (List.Subset.refl _)]
  | .node entries, v, h => by
    cases v <;> simp [equal] at h
    simp [equal, equalEntries_self entries h.2 (List.Subset.refl _)]
  | .itemized entries, v, h => by
    cases v <;> simp [equal] at h
    simp [equal, equalEntries_self entries h.2 (List.Subset.refl _)]
  | .entity r attributes, v, h => by
    cases v <;> simp [equal] at h
    simp [equal, equalAttributes_self attributes h.2]
  | .type n, _, _ => by simp [equal]

theorem equalItems_self : ∀ (us : List Value) {vs : List Value}, equalItems us vs = true →
    equalItems us us = true
  | [], _, _ => rfl
  | u :: us, vs, h => by
    rcases vs with _ | ⟨v, vs⟩
    · simp [equalItems] at h
    simp only [equalItems, Bool.and_eq_true] at h ⊢
    exact ⟨equal_self u h.1, equalItems_self us h.2⟩

/-- Entries that each have an equal somewhere are equal to themselves. -/
theorem equalEntries_self : ∀ (us : Entries) {vs ws : Entries}, equalEntries us vs = true →
    us ⊆ ws → equalEntries us ws = true
  | [], _, _, _, _ => rfl
  | (k, u) :: us, vs, ws, h, sub => by
    simp only [equalEntries, Bool.and_eq_true, List.any_eq_true] at h ⊢
    obtain ⟨⟨e, he, hk, hu⟩, h⟩ := h
    refine ⟨⟨(k, u), sub List.mem_cons_self, equal_self k hk, equal_self u hu⟩, ?_⟩
    exact equalEntries_self us h fun e he => sub (List.mem_cons_of_mem _ he)

theorem equalAttributes_self : ∀ (us : List (String × Value)) {vs : List (String × Value)},
    equalAttributes us vs = true → equalAttributes us us = true
  | [], _, _ => rfl
  | (n, u) :: us, vs, h => by
    rcases vs with _ | ⟨⟨m, v⟩, vs⟩
    · simp [equalAttributes] at h
    simp only [equalAttributes, Bool.and_eq_true, beq_self_eq_true, true_and] at h ⊢
    exact ⟨equal_self u h.1.2, equalAttributes_self us h.2⟩

end

/-- **The first of some values that is equal to another** is also the first that is equal to
itself. -/
theorem find?_beq_self {α : Type} {f : α → Value} {as : List α} {a : α} {v : Value}
    (h : as.find? (fun a => f a == v) = some a) : as.find? (fun b => f b == f a) = some a := by
  obtain ⟨ha, before, after, rfl, earlier⟩ := List.find?_eq_some_iff_append.mp h
  refine List.find?_eq_some_iff_append.mpr ⟨equal_self _ ha, before, after, rfl, fun b hb => ?_⟩
  have apart := earlier b hb
  rw [Bool.not_eq_true'] at apart ⊢
  by_contra equal
  have equal : (f b == f a) = true := by simpa using equal
  have : (f b == v) = true := equal_trans _ equal ha
  rw [apart] at this
  cases this

/-- Only a text is equal to a text. -/
theorem eq_text_of_beq {v : Value} {s : String} (h : (v == .text s) = true) : v = .text s := by
  have h : v.equal (.text s) = true := h
  cases v with
  | text t => rw [Value.equal, beq_iff_eq] at h; rw [h]
  | float x =>
    rw [Value.equal] at h
    · cases whole : Decimal.wholeFloat? x <;> simp [whole, Value.whole?] at h
    · rintro y ⟨⟩
  | _ => simp [Value.equal, Value.whole?] at h

/-- A text is equal to texts only. -/
theorem eq_text_of_text_beq {v : Value} {s : String} (h : (Value.text s == v) = true) :
    v = .text s := by
  have h : (Value.text s).equal v = true := h
  cases v with
  | text t => rw [Value.equal, beq_iff_eq] at h; rw [h]
  | _ => simp [Value.equal] at h

theorem text_beq_self (s : String) : (Value.text s == Value.text s) = true :=
  beq_self_eq_true s

end Value

end GraphMapper
