import GraphMapper.Proofs.Validation.Inside

/-!
# Types that know their own values

In a union a value may fit a member that did not make it. This does no harm as long as the value
fits the one that did perfectly, and any other member that it fits perfectly leaves it as it is.
Both are so for types made of texts, numbers, truth values and null by lists and unions and, with
single values for keys, by mappings; and also with entity types in place of the mappings. These
types are **steady** (`GraphMapper.TypeExpr.Steady`).

* The values they make are without surprises (`GraphMapper.TypeExpr.Steady.plain_of_accept`): lists
  of lists and so on, down to single values and instances, or to maps that keep their keys apart.
* They are calm about all such values (`GraphMapper.TypeExpr.Steady.calm_accept`).
* So what they make fits them perfectly (`GraphMapper.TypeExpr.Steady.fits_accept_again`).

Mappings and entity types do not go together, since a map is made into an instance without fitting
perfectly, and bounds inside the instance may even end the search.
-/

namespace GraphMapper

open Checked Outcome

/-! ### Plain types of single values -/

/-- Whether a plain type is one of single values: of texts, numbers, truth values or null. -/
def PlainType.isScalar : PlainType → Bool
  | .text | .integer | .float | .truth | .null => true
  | _ => false

namespace Bounds

variable {b : Bounds}

/-- What is checked is what is given. -/
theorem checkInteger_eq_ok {i j : Int} (h : b.checkInteger i = .ok j) : j = i := by
  unfold checkInteger at h
  split_ifs at h <;> cases h
  rfl

theorem checkFloat_eq_ok {x y : Float} (h : b.checkFloat x = .ok y) : y = x := by
  unfold checkFloat at h
  split_ifs at h <;> cases h
  rfl

theorem checkText_eq_ok {s t : String} (h : b.checkText s = .ok t) : t = s := by
  unfold checkText at h
  split_ifs at h <;> cases h
  rfl

theorem checkBytes_eq_ok {s t : String} (h : b.checkBytes s = .ok t) : t = s := by
  unfold checkBytes at h
  split_ifs at h <;> cases h
  rfl

/-! Nothing stands against comparing a single value with its bounds. -/

theorem checkInteger_ne_incomparable (b : Bounds) (i : Int) :
    b.checkInteger i ≠ .error .incomparable := by
  unfold checkInteger
  split_ifs <;> rintro ⟨⟩

theorem checkFloat_ne_incomparable (b : Bounds) (x : Float) :
    b.checkFloat x ≠ .error .incomparable := by
  unfold checkFloat
  split_ifs <;> rintro ⟨⟩

theorem checkText_ne_incomparable (b : Bounds) (s : String) :
    b.checkText s ≠ .error .incomparable := by
  unfold checkText
  split_ifs <;> rintro ⟨⟩

end Bounds

namespace Value

theorem ofOption_ne_incomparable {α : Type} (c : Complaint) (o : Option α) :
    ofOption c o ≠ .error .incomparable := by
  cases o <;> rintro ⟨⟩

theorem readInteger_ne_incomparable (v : Value) : v.readInteger ≠ .error .incomparable := by
  cases v with
  | float x =>
    rw [readInteger, readWholeFloat]
    split
    · rintro ⟨⟩
    · split
      · rintro ⟨⟩
      · split <;> rintro ⟨⟩
  | text s =>
    rw [readInteger, readNumeral]
    split <;> rintro ⟨⟩
  | _ => rintro ⟨⟩

theorem readFloat_ne_incomparable (v : Value) : v.readFloat ≠ .error .incomparable := by
  cases v with
  | int i => exact ofOption_ne_incomparable _ _
  | text s => exact ofOption_ne_incomparable _ _
  | _ => rintro ⟨⟩

theorem readTruth_ne_incomparable (v : Value) : v.readTruth ≠ .error .incomparable := by
  have flag (i : Int) : readFlag i ≠ .error .incomparable := by
    unfold readFlag
    split_ifs <;> rintro ⟨⟩
  cases v with
  | int i =>
    rw [readTruth]
    split
    · exact flag i
    · rintro ⟨⟩
  | float x =>
    rw [readTruth]
    split
    · split
      · exact flag _
      · rintro ⟨⟩
    · rintro ⟨⟩
  | text s =>
    rw [readTruth, readWord]
    split_ifs <;> rintro ⟨⟩
  | _ => rintro ⟨⟩

end Value

/-! ### Values without surprises -/

namespace Value

/-- Whether a value is a single one: a text, a number, a truth value or null. -/
def isSingle : Value → Bool
  | .null | .bool _ | .int _ | .float _ | .text _ => true
  | _ => false

/-- Values made of single values and instances by lists and, if they are wanted, maps that keep
their keys apart. -/
inductive Plain (maps : Bool) : Value → Prop where
  /-- A single value. -/
  | single {v : Value} (h : v.isSingle = true) : Plain maps v
  /-- An instance. -/
  | entity (r : EntityRef) (attributes : List (String × Value)) : Plain maps (.entity r attributes)
  /-- A list of such values. -/
  | list {items : List Value} (h : ∀ v ∈ items, Plain maps v) : Plain maps (.list items)
  /-- A map to such values. -/
  | map {entries : Entries} (wanted : maps = true) (apart : Assoc.Apart entries)
    (h : ∀ e ∈ entries, Plain maps e.2) : Plain maps (.map entries)

variable {maps : Bool}

theorem isKey_of_isSingle {v : Value} (h : v.isSingle = true) : v.isKey = true := by
  cases v <;> first | rfl | cases h

theorem Plain.items {items : List Value} (h : Plain maps (.list items)) :
    ∀ v ∈ items, Plain maps v := by
  cases h with
  | single h => cases h
  | list h => exact h

/-- The only mappings among them are maps. -/
theorem Plain.mapping? {v : Value} (h : Plain maps v) : v.mapping? = none ∨
    maps = true ∧ ∃ entries, v = .map entries ∧ Assoc.Apart entries ∧
      ∀ e ∈ entries, Plain maps e.2 := by
  cases h with
  | single h => cases v <;> first | exact .inl rfl | cases h
  | map wanted apart h => exact .inr ⟨wanted, _, rfl, apart, h⟩
  | _ => exact .inl rfl

end Value

namespace PlainType

variable {p : PlainType} {b : Bounds} {v : Value} {a : Accepted}

/-- What a plain type of single values makes is one of them, which it takes as it is. -/
structure Made (p : PlainType) (b : Bounds) (v : Value) (a : Accepted) : Prop where
  /-- It is a single value. -/
  isSingle : a.value.isSingle = true
  /-- It is taken as it is. -/
  again : p.accept b a.value = .ok (.exactly a.value)
  /-- If it fits perfectly it is the value itself. -/
  calm : a.fit.isPerfect = true → a.value = v

theorem made_of_accept (scalar : p.isScalar = true) (h : p.accept b v = .ok a) : p.Made b v a := by
  cases p
  case text =>
    obtain ⟨s, read, rfl⟩ := map_eq_ok.mp h
    obtain ⟨t, hv, checked⟩ := bind_eq_ok.mp read
    obtain rfl := Bounds.checkText_eq_ok checked
    refine ⟨rfl, ?_, fun _ => ?_⟩
    · exact congrArg (Except.map _) checked
    · cases v <;> cases hv
      rfl
  case integer =>
    obtain ⟨i, read, rfl⟩ := map_eq_ok.mp h
    obtain ⟨j, hv, checked⟩ := bind_eq_ok.mp read
    obtain rfl := Bounds.checkInteger_eq_ok checked
    have again : integer.accept b (.int i) = .ok (.exactly (.int i)) :=
      congrArg (Except.map _) checked
    cases v with
    | int j =>
      obtain rfl := Except.ok.inj hv
      exact ⟨rfl, again, fun _ => rfl⟩
    | _ => exact ⟨rfl, again, by rintro ⟨⟩⟩
  case float =>
    obtain ⟨x, read, rfl⟩ := map_eq_ok.mp h
    obtain ⟨y, hv, checked⟩ := bind_eq_ok.mp read
    obtain rfl := Bounds.checkFloat_eq_ok checked
    have again : float.accept b (.float x) = .ok (.exactly (.float x)) :=
      congrArg (Except.map _) checked
    cases v with
    | float y =>
      obtain rfl := Except.ok.inj hv
      exact ⟨rfl, again, fun _ => rfl⟩
    | _ => exact ⟨rfl, again, by rintro ⟨⟩⟩
  case truth =>
    obtain ⟨t, hv, rfl⟩ := map_eq_ok.mp h
    cases v with
    | bool t =>
      obtain rfl := Except.ok.inj hv
      exact ⟨rfl, rfl, fun _ => rfl⟩
    | _ => exact ⟨rfl, rfl, by rintro ⟨⟩⟩
  case null =>
    cases v with
    | null =>
      obtain rfl := Except.ok.inj h
      exact ⟨rfl, rfl, fun _ => rfl⟩
    | _ => cases h
  all_goals cases scalar

/-- It can be a key. -/
theorem isKey_of_accept (scalar : p.isScalar = true) (h : p.accept b v = .ok a) :
    a.isKey = true :=
  Accepted.isKey_of_value (Value.isKey_of_isSingle (made_of_accept scalar h).isSingle)

theorem accept_ne_incomparable (scalar : p.isScalar = true) (b : Bounds) (v : Value) :
    p.accept b v ≠ .error .incomparable := by
  cases p
  case text =>
    refine map_ne_incomparable (bind_ne_incomparable ?_ fun s _ => b.checkText_ne_incomparable s) _
    cases v <;> rintro ⟨⟩
  case integer =>
    exact map_ne_incomparable (bind_ne_incomparable v.readInteger_ne_incomparable fun i _ =>
      b.checkInteger_ne_incomparable i) _
  case float =>
    exact map_ne_incomparable (bind_ne_incomparable v.readFloat_ne_incomparable fun x _ =>
      b.checkFloat_ne_incomparable x) _
  case truth => exact map_ne_incomparable v.readTruth_ne_incomparable _
  case null => cases v <;> rintro ⟨⟩
  all_goals cases scalar

theorem calm_accept (scalar : p.isScalar = true) (b : Bounds) (v : Value) :
    Calm v (p.accept b v) :=
  ⟨fun _ h => (made_of_accept scalar h).calm, accept_ne_incomparable scalar b v⟩

theorem fits_accept_again (scalar : p.isScalar = true) (b : Bounds) :
    FitsAgain (p.accept b) (p.accept b) := by
  intro v a h
  rw [(made_of_accept scalar h).again]
  exact fits_exactly _

theorem givesAgain_of_isScalar (scalar : p.isScalar = true) (b : Bounds) :
    GivesAgain (p.accept b) (p.accept b) := by
  intro v a h
  rw [(made_of_accept scalar h).again]
  exact gives_exactly ((isKey_of_accept scalar h).trans
    (Value.isKey_of_isSingle (made_of_accept scalar h).isSingle).symm)

end PlainType

/-! ### Readings of entity types -/

/-- A reading of entity types that makes nothing frozen. -/
def Unfrozen (f : EntityRef → Value → Checked Accepted) : Prop :=
  ∀ {r v a}, f r v = .ok a → a.frozen = false

/-- Readings of entity types, of which the second **recognises** what the first makes: instances,
which it leaves as they are. About what is no mapping it is calm. -/
structure Recognises (f g : EntityRef → Value → Checked Accepted) : Prop where
  /-- Instances are made. -/
  entity : ∀ {r v a}, f r v = .ok a → ∃ s attributes, a.value = .entity s attributes
  /-- They are taken as they are. -/
  again : ∀ {r v a}, f r v = .ok a → g r a.value = .ok (.exactly a.value)
  /-- What is no mapping is passed on as it is, if it fits perfectly. -/
  calm : ∀ {v}, v.mapping? = none → ∀ r, Calm v (g r v)
  /-- The first makes nothing frozen. -/
  unfrozen : Unfrozen f
  /-- Neither does the second. -/
  unfrozen' : Unfrozen g

/-! ### Types that know their own values -/

namespace TypeExpr

/-- Types made of plain types of single values by collections read as lists, by unions, and by
either mappings or entity types, but not both. -/
inductive Steady (maps : Bool) : TypeExpr → Prop where
  /-- A plain type of single values. -/
  | plain {p : PlainType} (scalar : p.isScalar = true) : Steady maps (.plain p)
  /-- An entity type, where there are no mappings. -/
  | entity (absent : maps = false) (r : EntityRef) : Steady maps (.entity r)
  /-- A collection that is read as a list. -/
  | collection {kind : CollectionKind} (exact : kind.closeness = .exact) {item : TypeExpr}
    (h : Steady maps item) : Steady maps (.collection kind item)
  /-- A mapping from single values. -/
  | mapping (wanted : maps = true) (kind : MappingKind) {p : PlainType} (scalar : p.isScalar = true)
    {value : TypeExpr} (h : Steady maps value) : Steady maps (.mapping kind (.plain p) value)
  /-- A union. -/
  | union (form : UnionForm) {members : List TypeExpr} (h : ∀ t ∈ members, Steady maps t) :
    Steady maps (.union form members)

section

variable {maps : Bool} {t : TypeExpr} {f g : EntityRef → Value → Checked Accepted} {b : Bounds}
  {v : Value} {a : Accepted}

theorem Steady.leavesItems (h : t.Steady maps) : t.leavesItems = false := by
  cases h with
  | @plain p scalar => cases p <;> first | rfl | cases scalar
  | _ => rfl

/-- The members of a union other than null are asked one after the other. -/
theorem acceptMembers_eq (f : EntityRef → Value → Checked Accepted) (b : Bounds)
    (members : List TypeExpr) (v : Value) : acceptMembers f b members v =
      (members.filter (!·.isNull)).map fun t => (t.memberName, t.accept f b v) := by
  induction members with
  | nil => rfl
  | cons t rest ih =>
    rw [acceptMembers]
    split <;> simp [*]

theorem mem_acceptMembers {members : List TypeExpr} {o : String × Checked Accepted}
    (h : o ∈ acceptMembers f b members v) : ∃ t ∈ members, o.2 = t.accept f b v := by
  rw [acceptMembers_eq] at h
  obtain ⟨t, ht, rfl⟩ := List.mem_map.mp h
  exact ⟨t, List.mem_of_mem_filter ht, rfl⟩

theorem mem_acceptMembers_of_mem {members : List TypeExpr} (ht : t ∈ members)
    (notNull : t.isNull = false) :
    (t.memberName, t.accept f b v) ∈ acceptMembers f b members v := by
  rw [acceptMembers_eq]
  exact List.mem_map_of_mem (List.mem_filter.mpr ⟨ht, by simpa using notNull⟩)

/-- A union with null as a member takes null as it is. -/
theorem accept_union_null {form : UnionForm} {members : List TypeExpr} (ht : t ∈ members)
    (null : t.isNull = true) : accept f b (.union form members) .null = .ok (.exactly .null) :=
  if_pos (Bool.and_eq_true_iff.mpr ⟨rfl, List.any_eq_true.mpr ⟨t, ht, null⟩⟩)

/-- What a union makes of a value is null, or made by a member. -/
theorem accept_union_cases {form : UnionForm} {members : List TypeExpr}
    (h : accept f b (.union form members) v = .ok a) :
    v = .null ∧ (∃ t ∈ members, t.isNull = true) ∧ a = .exactly .null ∨
      ∃ t ∈ members, t.isNull = false ∧ t.accept f b v = .ok a := by
  rw [accept] at h
  split at h
  · next null =>
    obtain ⟨isNull, some⟩ := Bool.and_eq_true_iff.mp null
    obtain rfl : v = .null := by cases v <;> first | rfl | cases isNull
    exact .inl ⟨rfl, List.any_eq_true.mp some, (Except.ok.inj h).symm⟩
  · obtain ⟨o, ho, h⟩ := mem_of_ofOutcomes_eq_ok h
    rw [acceptMembers_eq] at ho
    obtain ⟨t, ht, rfl⟩ := List.mem_map.mp ho
    obtain ⟨ht, notNull⟩ := List.mem_filter.mp ht
    exact .inr ⟨t, ht, by simpa using notNull, h⟩

/-- **A steady type makes values without surprises.** -/
theorem Steady.plain_of_accept (hf : Recognises f g) (h : t.Steady maps) :
    ∀ {b v a}, t.accept f b v = .ok a → a.value.Plain maps := by
  induction h with
  | plain scalar =>
    intro b v a h
    exact .single (PlainType.made_of_accept scalar h).isSingle
  | entity absent r =>
    intro b v a h
    obtain ⟨s, attributes, value⟩ := hf.entity h
    rw [value]
    exact .entity s attributes
  | @collection kind exact item steady ih =>
    intro b v a h
    rw [accept] at h
    by_cases list : ∃ items, v = .list items
    · obtain ⟨items, rfl⟩ := list
      rw [CollectionKind.accept_list (CollectionKind.keepsAll_of_exact exact)
        (by rw [steady.leavesItems]; rfl)] at h
      obtain ⟨as, made, rfl⟩ := map_eq_ok.mp h
      refine .list fun w hw => ?_
      obtain ⟨a, ha, rfl⟩ := List.mem_map.mp hw
      obtain ⟨v, -, made⟩ := exists_of_mem_right (acceptItems_eq_ok_iff.mp made).1 ha
      exact ih made
    · obtain ⟨⟨s, rfl⟩, rfl, -⟩ :=
        CollectionKind.eq_exactly_of_not_list (CollectionKind.ne_iterable_of_exact exact) list h
      exact .single rfl
  | @mapping wanted kind p scalar value steady ih =>
    intro b v a h
    rw [accept] at h
    obtain ⟨entries, -, h⟩ := bind_eq_ok.mp h
    obtain ⟨made, same, apart, -, values⟩ := exists_map_of_acceptEntries h
      (P := fun _ => True) (fun _ _ _ _ => trivial) fun _ _ hx => ih hx
    rw [same]
    exact .map wanted apart fun e he => (values e he).2
  | union form steady ih =>
    intro b v a h
    rcases accept_union_cases h with ⟨-, -, rfl⟩ | ⟨t, ht, -, h⟩
    · exact .single rfl
    · exact ih t ht h

/-- What a steady type makes is a key exactly if its value is one. -/
theorem Steady.isKey_of_accept (hf : Unfrozen f) (h : t.Steady maps) :
    ∀ {b v a}, t.accept f b v = .ok a → a.isKey = a.value.isKey := by
  induction h with
  | plain scalar =>
    intro b v a h
    rw [PlainType.isKey_of_accept scalar h,
      Value.isKey_of_isSingle (PlainType.made_of_accept scalar h).isSingle]
  | entity _ r =>
    intro b v a h
    exact Accepted.isKey_of_frozen_eq (hf h)
  | @collection kind exact item steady ih =>
    intro b v a h
    rw [accept] at h
    by_cases list : ∃ items, v = .list items
    · obtain ⟨items, rfl⟩ := list
      rw [CollectionKind.accept_list (CollectionKind.keepsAll_of_exact exact)
        (by rw [steady.leavesItems]; rfl)] at h
      obtain ⟨as, -, rfl⟩ := map_eq_ok.mp h
      rw [kind.isKey_collect]
      cases kind <;> first | rfl | cases exact
    · obtain ⟨-, rfl, -⟩ :=
        CollectionKind.eq_exactly_of_not_list (CollectionKind.ne_iterable_of_exact exact) list h
      rfl
  | mapping _ kind _ _ _ =>
    intro b v a h
    rw [accept] at h
    obtain ⟨entries, -, h⟩ := bind_eq_ok.mp h
    obtain ⟨accepted, -, -, rfl⟩ := acceptEntries_eq_ok_iff.mp h
    rfl
  | union form steady ih =>
    intro b v a h
    rcases accept_union_cases h with ⟨-, -, rfl⟩ | ⟨t, ht, -, h⟩
    · rfl
    · exact ih t ht h

/-- **A steady type is calm** about values without surprises. -/
theorem Steady.calm_accept (hg : Recognises f g) (h : t.Steady maps) :
    ∀ (b : Bounds) {v : Value}, v.Plain maps → Calm v (t.accept g b v) := by
  induction h with
  | plain scalar => exact fun b v _ => PlainType.calm_accept scalar b v
  | entity absent r =>
    intro b v plain
    rcases plain.mapping? with none | ⟨wanted, -⟩
    · exact hg.calm none r
    · rw [absent] at wanted
      cases wanted
  | @collection kind exact item steady ih =>
    intro b v plain
    rw [accept]
    refine CollectionKind.calm_accept b exact steady.leavesItems ?_
    rintro items rfl w hw
    exact ih {} (plain.items w hw)
  | @mapping wanted kind p scalar value steady ih =>
    intro b v plain
    rw [accept, Value.readMap]
    rcases plain.mapping? with none | ⟨-, entries, rfl, apart, values⟩
    · rw [none]
      exact (refuses_complain _).calm v
    · refine calm_acceptEntries apart (fun e _ => ⟨?_, fun k hk => ?_⟩) fun e he => ?_
      · exact PlainType.calm_accept scalar {} e.1
      · exact PlainType.isKey_of_accept scalar hk
      · exact ih {} (values e he)
  | union form steady ih =>
    intro b v plain
    rw [accept]
    split
    · exact (fits_exactly v).calm
    · refine calm_ofOutcomes fun o ho => ?_
      obtain ⟨t, ht, same⟩ := mem_acceptMembers ho
      rw [same]
      exact ih t ht b plain

/-- **What a steady type makes fits it perfectly.** A value made by a member of a union fits this
member, and the others are calm about it. -/
theorem Steady.fits_accept_again (h : Recognises f g) (steady : t.Steady maps) :
    ∀ b, FitsAgain (t.accept f b) (t.accept g b) := by
  induction steady with
  | plain scalar => exact PlainType.fits_accept_again scalar
  | entity absent r =>
    intro b v a made
    rw [accept, h.again made]
    exact fits_exactly _
  | collection exact steady ih =>
    exact fun b => CollectionKind.fits_accept_again b exact steady.leavesItems (ih {})
  | @mapping wanted kind p scalar value steady ih =>
    intro b v a made
    rw [accept] at made
    obtain ⟨entries, -, made⟩ := bind_eq_ok.mp made
    obtain ⟨entries', same, fits⟩ :=
      fits_acceptEntries_again (PlainType.fits_accept_again scalar {})
        (fun _ _ => PlainType.isKey_of_accept scalar) (ih {}) made
    rw [same]
    exact fits
  | @union form members steady ih =>
    intro b v a made
    rcases accept_union_cases made with ⟨-, ⟨t, ht, null⟩, rfl⟩ | ⟨t, ht, notNull, made⟩
    · exact ⟨_, accept_union_null ht null, rfl, rfl⟩
    · have plain := (steady t ht).plain_of_accept h made
      rw [accept]
      split
      · exact fits_exactly _
      · refine fits_ofOutcomes (fun o ho => ?_)
          ⟨_, mem_acceptMembers_of_mem ht notNull, ih t ht b v a made⟩
        obtain ⟨u, hu, same⟩ := mem_acceptMembers ho
        rw [same]
        exact (steady u hu).calm_accept h b plain

/-- **A steady type gives again what it makes.** -/
theorem Steady.givesAgain (h : Recognises f g) (steady : t.Steady maps) (b : Bounds) :
    GivesAgain (t.accept f b) (t.accept g b) := by
  intro v a made
  obtain ⟨a', again, same, -⟩ := steady.fits_accept_again h b v a made
  refine ⟨a', again, same, ?_⟩
  rw [steady.isKey_of_accept h.unfrozen' again, steady.isKey_of_accept h.unfrozen made, same]

end

end TypeExpr

end GraphMapper
