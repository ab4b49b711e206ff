import GraphMapper.Validation
import Mathlib.Data.List.Forall2

/-!
# Outcomes, step by step

Everything that can go wrong ends in an `Except`, put together from smaller ones. The lemmas
here take such an outcome apart: `GraphMapper.Outcome.bind_eq_ok` where one step follows
another, `GraphMapper.Outcome.mapM_eq_ok` where a step is taken for every item of a list.

Where the same is done twice under different circumstances, the outcomes **agree** if both fail
for the same reason, or both succeed with related results. Agreement passes from the steps to
the whole (`GraphMapper.Outcome.Agree.bind`).
-/

namespace GraphMapper.Outcome

variable {ε α β : Type}

/-- Behind a step that succeeds comes the next, with what it gave. -/
theorem ok_bind (a : α) (f : α → Except ε β) : (Except.ok a >>= f) = f a := rfl

/-- Two steps succeed if the first does, and then the second with what the first gave. -/
theorem bind_eq_ok {e : Except ε α} {f : α → Except ε β} {b : β} :
    e >>= f = .ok b ↔ ∃ a, e = .ok a ∧ f a = .ok b := by
  cases e with
  | error e => simp [bind, Except.bind]
  | ok a => simp [bind, Except.bind]

theorem pure_eq_ok {a b : α} : (pure a : Except ε α) = .ok b ↔ a = b :=
  ⟨fun h => Except.ok.inj h, congrArg Except.ok⟩

/-- What is made of what a step gives. -/
theorem map_eq_ok {e : Except ε α} {f : α → β} {b : β} :
    e.map f = .ok b ↔ ∃ a, e = .ok a ∧ f a = b := by
  cases e <;> simp [Except.map]

/-- What is said of a failure does not matter where there is none. -/
theorem mapError_eq_ok {ε' : Type} {e : Except ε α} {f : ε → ε'} {a : α} :
    e.mapError f = .ok a ↔ e = .ok a := by
  cases e <;> simp [Except.mapError]

theorem mapError_eq_error {ε' : Type} {e : Except ε α} {f : ε → ε'} {failure : ε'} :
    e.mapError f = .error failure ↔ ∃ r, e = .error r ∧ f r = failure := by
  cases e <;> simp [Except.mapError]

/-- What comes last is made of what a step before it gives, if that is known. -/
theorem eq_of_bind_pure {e : Except ε α} {a : α} (he : e = .ok a) {f : α → β} {b : β}
    (h : (do let x ← e; pure (f x)) = .ok b) : b = f a := by
  obtain ⟨a', ha, hb⟩ := bind_eq_ok.mp h
  obtain rfl := Except.ok.inj (he.symm.trans ha)
  exact (pure_eq_ok.mp hb).symm

/-- A step for every item succeeds if it does for each. -/
theorem mapM_eq_ok {f : α → Except ε β} {as : List α} {bs : List β} :
    as.mapM f = .ok bs ↔ List.Forall₂ (fun a b => f a = .ok b) as bs := by
  induction as generalizing bs with
  | nil =>
    rw [List.mapM_nil, pure_eq_ok, List.forall₂_nil_left_iff]
    exact eq_comm
  | cons a as ih =>
    rw [List.mapM_cons, bind_eq_ok, List.forall₂_cons_left_iff]
    constructor
    · rintro ⟨b, hb, h⟩
      obtain ⟨bs', hbs, h⟩ := bind_eq_ok.mp h
      exact ⟨b, bs', hb, ih.mp hbs, (pure_eq_ok.mp h).symm⟩
    · rintro ⟨b, bs', hb, hbs, rfl⟩
      exact ⟨b, hb, bind_eq_ok.mpr ⟨bs', ih.mpr hbs, rfl⟩⟩

/-- A step for every item fails as it does for the first item for which it fails. -/
theorem exists_of_mapM_eq_error {f : α → Except ε β} {as : List α} {e : ε}
    (h : as.mapM f = .error e) : ∃ before a after, as = before ++ a :: after ∧
      (∀ a' ∈ before, ∃ b, f a' = .ok b) ∧ f a = .error e := by
  induction as with
  | nil => cases h
  | cons a as ih =>
    rw [List.mapM_cons] at h
    cases first : f a with
    | error e' =>
      rw [first] at h
      cases h
      exact ⟨[], a, as, rfl, by simp, first⟩
    | ok b =>
      cases others : as.mapM f with
      | ok bs =>
        rw [first, others] at h
        cases h
      | error e' =>
        rw [first, others] at h
        cases h
        obtain ⟨before, a', after, rfl, passed, failed⟩ := ih others
        exact ⟨a :: before, a', after, rfl, List.forall_mem_cons.mpr ⟨⟨b, first⟩, passed⟩, failed⟩

/-- A step for every item depends on what it does for each. -/
theorem mapM_congr {f g : α → Except ε β} {as : List α} (h : ∀ a ∈ as, f a = g a) :
    as.mapM f = as.mapM g := by
  induction as with
  | nil => rfl
  | cons a as ih =>
    obtain ⟨first, others⟩ := List.forall_mem_cons.mp h
    rw [List.mapM_cons, List.mapM_cons, first, ih others]

/-- What stands in the second of two related lists is related to something in the first. -/
theorem exists_of_mem_right {R : α → β → Prop} {as : List α} {bs : List β}
    (h : List.Forall₂ R as bs) {b : β} (hb : b ∈ bs) : ∃ a ∈ as, R a b := by
  induction h with
  | nil => cases hb
  | @cons a b' as bs hab _ ih =>
    rcases List.mem_cons.mp hb with rfl | hb
    · exact ⟨a, List.mem_cons_self, hab⟩
    · obtain ⟨a', ha, hr⟩ := ih hb
      exact ⟨a', List.mem_cons_of_mem _ ha, hr⟩

/-- Where each item is related to something, all are. -/
theorem exists_forall₂ {R : α → β → Prop} {as : List α}
    (h : ∀ a ∈ as, ∃ b, R a b) : ∃ bs, List.Forall₂ R as bs := by
  induction as with
  | nil => exact ⟨[], .nil⟩
  | cons a rest ih =>
    obtain ⟨⟨b, hb⟩, others⟩ := List.forall_mem_cons.mp h
    obtain ⟨bs, hbs⟩ := ih others
    exact ⟨b :: bs, .cons hb hbs⟩

/-- What a step for every item gave, it gave for one of them. -/
theorem exists_of_mem_mapM {f : α → Except ε β} {as : List α} {bs : List β}
    (h : as.mapM f = .ok bs) {b : β} (hb : b ∈ bs) : ∃ a ∈ as, f a = .ok b :=
  exists_of_mem_right (mapM_eq_ok.mp h) hb

/-! ### Outcomes that agree -/

/-- Two outcomes that agree: both fail, and for the same reason, or both succeed, with results
that are related. -/
inductive Agree (R : α → β → Prop) : Except ε α → Except ε β → Prop where
  /-- Both succeed. -/
  | ok {a : α} {b : β} (related : R a b) : Agree R (.ok a) (.ok b)
  /-- Both fail. -/
  | error (e : ε) : Agree R (.error e) (.error e)

namespace Agree

variable {ε' α' β' : Type} {R : α → β → Prop} {S : α' → β' → Prop}

theorem refl {T : α → α → Prop} (hT : ∀ a, T a a) (e : Except ε α) : Agree T e e := by
  cases e with
  | error e => exact .error e
  | ok a => exact .ok (hT a)

theorem mono {T : α → β → Prop} (hRT : ∀ a b, R a b → T a b) {e : Except ε α} {e' : Except ε β}
    (h : Agree R e e') : Agree T e e' := by
  cases h with
  | error e => exact .error e
  | ok related => exact .ok (hRT _ _ related)

/-- Two steps agree with two others if the first does with the first, and the second with the
second wherever the results of the first are related. -/
theorem bind {e : Except ε α} {e' : Except ε β} {f : α → Except ε α'} {f' : β → Except ε β'}
    (h : Agree R e e') (hf : ∀ a b, R a b → Agree S (f a) (f' b)) :
    Agree S (e >>= f) (e' >>= f') := by
  cases h with
  | error e => exact .error e
  | ok related => exact hf _ _ related

theorem map {e : Except ε α} {e' : Except ε β} {f : α → α'} {f' : β → β'}
    (h : Agree R e e') (hf : ∀ a b, R a b → S (f a) (f' b)) : Agree S (e.map f) (e'.map f') := by
  cases h with
  | error e => exact .error e
  | ok related => exact .ok (hf _ _ related)

theorem mapError {e : Except ε α} {e' : Except ε β} (f : ε → ε') (h : Agree R e e') :
    Agree R (e.mapError f) (e'.mapError f) := by
  cases h with
  | error e => exact .error (f e)
  | ok related => exact .ok related

end Agree

end GraphMapper.Outcome
