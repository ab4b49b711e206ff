import GraphMapper.Proofs.Outcome
import GraphMapper.Validation.Accept

/-!
# What becomes of a value in a union

The members of a union are asked one after the other what they make of a value. For the choice
among them it matters what each outcome is like, seen from a value `v`: whether it **refuses**, is
**calm** in that a perfect fit can only be `v` itself, or **fits** `v` perfectly. If a member fits
perfectly, which ends the search, and all others are calm, the union fits as well, wherever in it
the member stands (`GraphMapper.TypeExpr.fits_ofOutcomes`).

Where what was made of a value is validated again, the outcome should **give** it: make the same
value of it, and a key if it was one.
-/

namespace GraphMapper

namespace Checked

/-! ### Outcomes seen from a value -/

/-- The value is refused, for some issues. -/
def Refuses (c : Checked Accepted) : Prop := ∃ found, found ≠ [] ∧ c = .error (.issues found)

/-- If the fit is perfect the value is passed on as it is; if it is not accepted, there are
issues. -/
structure Calm (v : Value) (c : Checked Accepted) : Prop where
  /-- What fits perfectly is passed on. -/
  value : ∀ a, c = .ok a → a.fit.isPerfect = true → a.value = v
  /-- Nothing stands against comparing. -/
  comparable : c ≠ .error .incomparable

/-- The value is what is made, and the fit is perfect. -/
def Fits (v : Value) (c : Checked Accepted) : Prop :=
  ∃ a, c = .ok a ∧ a.value = v ∧ a.fit.isPerfect = true

/-- What was made before is made again: the same value, and a key if it was one. -/
def Gives (a : Accepted) (c : Checked Accepted) : Prop :=
  ∃ a', c = .ok a' ∧ a'.value = a.value ∧ a'.isKey = a.isKey

section

variable {α : Type} {v : Value} {c : Checked Accepted}

theorem refuses_complain (c : Complaint) : Refuses (complain c) :=
  ⟨_, List.cons_ne_nil _ _, rfl⟩

theorem Refuses.ne_ok (h : Refuses c) (a : Accepted) : c ≠ .ok a := by
  obtain ⟨found, -, rfl⟩ := h
  rintro ⟨⟩

theorem Refuses.calm (h : Refuses c) (v : Value) : Calm v c :=
  ⟨fun a made => absurd made (h.ne_ok a), by obtain ⟨found, -, rfl⟩ := h; rintro ⟨⟩⟩

theorem fits_exactly (v : Value) : Fits v (.ok (.exactly v)) := ⟨_, rfl, rfl, rfl⟩

theorem Fits.calm (h : Fits v c) : Calm v c := by
  obtain ⟨a, rfl, rfl, -⟩ := h
  exact ⟨by rintro b ⟨⟩ -; rfl, by rintro ⟨⟩⟩

/-- A value that is the key it was made as is given as it is. -/
theorem gives_exactly {a : Accepted} (h : a.isKey = a.value.isKey) :
    Gives a (.ok (.exactly a.value)) := ⟨_, rfl, rfl, h.symm⟩

/-- Null is given as it is. -/
theorem gives_null {a : Accepted} (h : a.value.isNull = true) :
    Gives a (.ok (.exactly a.value)) := by
  have key : a.value.isKey = true := by
    cases same : a.value <;> rw [same] at h <;> first | rfl | cases h
  exact gives_exactly ((Accepted.isKey_of_value key).trans key.symm)

/-! ### Many outcomes -/

theorem under_eq_incomparable_iff {step : Step} {c : Checked α} :
    under step c = .error .incomparable ↔ c = .error .incomparable := by
  cases c with
  | ok a => simp
  | error r => cases r <;> simp [Refusal.under]

theorem both_ne_incomparable {β : Type} {c : Checked α} {d : Checked β}
    (hc : c ≠ .error .incomparable) (hd : d ≠ .error .incomparable) :
    both c d ≠ .error .incomparable := by
  rcases c with r | a
  · cases r with
    | incomparable => exact absurd rfl hc
    | issues found =>
      rcases d with r' | b
      · cases r' with
        | incomparable => exact absurd rfl hd
        | issues more => simp [both, Refusal.and]
      · simp [both]
  · rcases d with r' | b
    · simpa [both] using hd
    · simp [both]

theorem bind_ne_incomparable {β : Type} {c : Checked α} {f : α → Checked β}
    (hc : c ≠ .error .incomparable) (hf : ∀ a, c = .ok a → f a ≠ .error .incomparable) :
    c >>= f ≠ .error .incomparable := by
  cases c with
  | error r => exact fun h => hc (congrArg Except.error (Except.error.inj h))
  | ok a => exact hf a rfl

theorem map_ne_incomparable {β : Type} {c : Checked α} (hc : c ≠ .error .incomparable)
    (f : α → β) : c.map f ≠ .error .incomparable := by
  cases c with
  | error r => exact fun h => hc (congrArg Except.error (Except.error.inj h))
  | ok a => rintro ⟨⟩

/-- All outcomes together stand against comparing only if one of them does. -/
theorem gather_ne_incomparable {cs : List (Checked α)} (h : ∀ c ∈ cs, c ≠ .error .incomparable) :
    gather cs ≠ .error .incomparable := by
  induction cs with
  | nil => rintro ⟨⟩
  | cons c rest ih =>
    obtain ⟨first, others⟩ := List.forall_mem_cons.mp h
    exact map_ne_incomparable (both_ne_incomparable first (ih others)) _

/-- All outcomes for some items read a list exactly if each reads its item. -/
theorem gather_map_eq_ok_iff {β : Type} {f : β → Checked α} {bs : List β} {as : List α} :
    gather (bs.map f) = .ok as ↔ List.Forall₂ (fun b a => f b = .ok a) bs as := by
  rw [gather_eq_ok_iff]
  induction bs generalizing as with
  | nil => cases as <;> simp
  | cons b bs ih => cases as <;> simp [ih]

end

end Checked

open Checked

/-! ### Perfect fits -/

namespace Fit

theorem isPerfect_and (f g : Fit) : (f.and g).isPerfect = (f.isPerfect && g.isPerfect) := by
  obtain ⟨c, n⟩ := f
  obtain ⟨d, m⟩ := g
  cases c <;> cases d <;> cases n <;> cases m <;> rfl

/-- Parts fit perfectly together exactly if each does. -/
theorem isPerfect_all (fits : List Fit) : (all fits).isPerfect = fits.all isPerfect := by
  have grow (acc : Fit) (fits : List Fit) :
      (fits.foldl Fit.and acc).isPerfect = (acc.isPerfect && fits.all isPerfect) := by
    induction fits generalizing acc with
    | nil => simp
    | cons f rest ih => simp [ih, isPerfect_and, Bool.and_assoc]
  exact grow {} fits

theorem isPerfect_atMost (c : Closeness) (f : Fit) :
    (f.atMost c).isPerfect = (f.isPerfect && decide (c = .exact)) := by
  obtain ⟨d, n⟩ := f
  cases c <;> cases d <;> cases n <;> rfl

end Fit

/-! ### Choosing -/

section

variable {v : Value} {outcomes : List (String × Checked Accepted)} {best : Option Accepted}
  {found : List Issue}

/-- What is chosen is the best so far, or what one of the members makes. -/
theorem mem_of_choose_eq_ok {a : Accepted} (h : choose best found outcomes = .ok a) :
    best = some a ∨ ∃ o ∈ outcomes, o.2 = .ok a := by
  induction outcomes generalizing best found with
  | nil =>
    cases best with
    | none => cases h
    | some b => exact .inl (congrArg some (Except.ok.inj h))
  | cons o rest ih =>
    obtain ⟨name, outcome⟩ := o
    rw [choose] at h
    rcases outcome with r | b
    · cases r with
      | incomparable => cases h
      | issues more =>
        rcases ih h with rfl | ⟨o, ho, h⟩
        · exact .inl rfl
        · exact .inr ⟨o, List.mem_cons_of_mem _ ho, h⟩
    · rw [under_ok] at h
      dsimp only at h
      split at h
      · exact .inr ⟨(name, .ok b), List.mem_cons_self, h⟩
      · rcases ih h with same | ⟨o, ho, h⟩
        · -- The better of two is one of them.
          cases best with
          | none =>
            exact .inr ⟨(name, .ok b), List.mem_cons_self, congrArg _ (Option.some.inj same)⟩
          | some b' =>
            rw [Accepted.better] at same
            split at same
            · exact .inr ⟨(name, .ok b), List.mem_cons_self, congrArg _ (Option.some.inj same)⟩
            · exact .inl same
        · exact .inr ⟨o, List.mem_cons_of_mem _ ho, h⟩

theorem choose_ne_incomparable (h : ∀ o ∈ outcomes, o.2 ≠ .error .incomparable) :
    choose best found outcomes ≠ .error .incomparable := by
  induction outcomes generalizing best found with
  | nil => cases best <;> rintro ⟨⟩
  | cons o rest ih =>
    obtain ⟨name, outcome⟩ := o
    obtain ⟨first, others⟩ := List.forall_mem_cons.mp h
    rw [choose]
    rcases outcome with r | b
    · cases r with
      | incomparable => exact absurd rfl first
      | issues more => exact ih others
    · rw [under_ok]
      dsimp only
      split
      · rintro ⟨⟩
      · exact ih others

/-- A perfect fit ends the search. -/
theorem fits_choose (calm : ∀ o ∈ outcomes, Calm v o.2) (perfect : ∃ o ∈ outcomes, Fits v o.2) :
    Fits v (choose best found outcomes) := by
  induction outcomes generalizing best found with
  | nil => simp at perfect
  | cons o rest ih =>
    obtain ⟨name, outcome⟩ := o
    obtain ⟨first, others⟩ := List.forall_mem_cons.mp calm
    obtain ⟨p, hp, fits⟩ := perfect
    rw [choose]
    rcases outcome with r | b
    · have later : p ∈ rest := by
        rcases List.mem_cons.mp hp with rfl | hp
        · obtain ⟨a, ⟨⟩, -⟩ := fits
        · exact hp
      cases r with
      | incomparable => exact absurd rfl first.comparable
      | issues more => exact ih others ⟨p, later, fits⟩
    · rw [under_ok]
      dsimp only
      split
      · next perfect => exact ⟨b, rfl, first.value b rfl perfect, perfect⟩
      · next imperfect =>
        rcases List.mem_cons.mp hp with rfl | hp
        · obtain ⟨a, ha, -, perfect⟩ := fits
          obtain rfl := Except.ok.inj ha
          exact absurd perfect imperfect
        · exact ih others ⟨p, hp, fits⟩

/-- Where no member refuses to compare, what is chosen fits perfectly only if it is the value. -/
theorem calm_choose (calm : ∀ o ∈ outcomes, Calm v o.2)
    (worse : ∀ a, best = some a → a.fit.isPerfect = false) :
    Calm v (choose best found outcomes) := by
  refine ⟨fun a ha perfect => ?_, choose_ne_incomparable fun o ho => (calm o ho).comparable⟩
  rcases mem_of_choose_eq_ok ha with h | ⟨o, ho, h⟩
  · rw [worse a h] at perfect
    cases perfect
  · exact (calm o ho).value a h perfect

namespace TypeExpr

/-- The outcome for a union is that of its only member, or it is chosen. -/
theorem ofOutcomes_cases (outcomes : List (String × Checked Accepted)) :
    (∃ o, outcomes = [o] ∧ ofOutcomes outcomes = o.2) ∨
      ofOutcomes outcomes = choose none [] outcomes := by
  rcases outcomes with _ | ⟨o, _ | ⟨p, rest⟩⟩
  · exact .inr rfl
  · exact .inl ⟨o, rfl, rfl⟩
  · exact .inr rfl

theorem mem_of_ofOutcomes_eq_ok {a : Accepted} (h : ofOutcomes outcomes = .ok a) :
    ∃ o ∈ outcomes, o.2 = .ok a := by
  rcases ofOutcomes_cases outcomes with ⟨o, rfl, same⟩ | same
  · exact ⟨o, List.mem_cons_self, same.symm.trans h⟩
  · rw [same] at h
    exact (mem_of_choose_eq_ok h).resolve_left (by rintro ⟨⟩)

theorem calm_ofOutcomes (calm : ∀ o ∈ outcomes, Calm v o.2) : Calm v (ofOutcomes outcomes) := by
  rcases ofOutcomes_cases outcomes with ⟨o, rfl, same⟩ | same
  · rw [same]
    exact calm o List.mem_cons_self
  · rw [same]
    exact calm_choose calm (by rintro a ⟨⟩)

/-- **If all members are calm and some member fits a value perfectly, so does the union.** -/
theorem fits_ofOutcomes (calm : ∀ o ∈ outcomes, Calm v o.2)
    (perfect : ∃ o ∈ outcomes, Fits v o.2) :
    Fits v (ofOutcomes outcomes) := by
  rcases ofOutcomes_cases outcomes with ⟨p, rfl, same⟩ | same
  · rw [same]
    obtain ⟨o, ho, fits⟩ := perfect
    obtain rfl := List.mem_singleton.mp ho
    exact fits
  · rw [same]
    exact fits_choose calm perfect

end TypeExpr

end

end GraphMapper
