import GraphMapper.Proofs.Closed
import GraphMapper.Proofs.Merge

/-!
# What is put into the text of a statement

Labels, property keys and names of relationships have no parameter form, so the text of whoever
calls gets into the text of a statement through them, and only an identifier is let through. What
this means is said here without a look at how identifiers are recognized: a **plain** text starts
with an ASCII letter or an underscore, and has only ASCII letters, digits and underscores.

An identifier is a plain text, or a plain text with a line feed behind it
(`GraphMapper.isIdentifier_iff`). Nothing else gets into a statement that is not written by the
client itself: every statement is **made of** the client's own words and of identifiers
(`GraphMapper.Client.inlinable_of_mem_statements`).
-/

namespace GraphMapper

open GraphMapper.Action Statement

/-! ### Plain texts -/

/-- A letter of the English alphabet. -/
def IsLetter (c : Char) : Prop := ('A' ≤ c ∧ c ≤ 'Z') ∨ ('a' ≤ c ∧ c ≤ 'z')

/-- A decimal digit. -/
def IsDigit (c : Char) : Prop := '0' ≤ c ∧ c ≤ '9'

/-- A letter or an underscore in front, and letters, digits and underscores all along. -/
structure IsPlain (s : String) : Prop where
  /-- What the text starts with. -/
  starts : ∃ c, s.toList.head? = some c ∧ (IsLetter c ∨ c = '_')
  /-- What it is made of. -/
  consists : ∀ c ∈ s.toList, IsLetter c ∨ IsDigit c ∨ c = '_'

/-- A plain text, or one with a line feed behind it. -/
def IsInlinable (s : String) : Prop := ∃ t, IsPlain t ∧ (s = t ∨ s = t ++ "\n")

/-- A letter is what lies between the first and the last, in one of the two cases. -/
theorem isAlpha_iff {c : Char} : c.isAlpha = true ↔ IsLetter c := by
  change (decide ('A' ≤ c ∧ c ≤ 'Z') || decide ('a' ≤ c) && decide (c ≤ 'z')) = true ↔ _
  simp only [Bool.or_eq_true, Bool.and_eq_true, decide_eq_true_eq]
  rfl

theorem isDigit_iff {c : Char} : c.isDigit = true ↔ IsDigit c := by
  change (decide ('0' ≤ c) && decide (c ≤ '9')) = true ↔ _
  rw [Bool.and_eq_true, decide_eq_true_eq, decide_eq_true_eq]
  rfl

theorem isIdentifierHead_iff {c : Char} : isIdentifierHead c = true ↔ IsLetter c ∨ c = '_' := by
  rw [isIdentifierHead, Bool.or_eq_true, isAlpha_iff, decide_eq_true_eq]

theorem isIdentifierChar_iff {c : Char} :
    isIdentifierChar c = true ↔ IsLetter c ∨ IsDigit c ∨ c = '_' := by
  have alphanum : c.isAlphanum = true ↔ IsLetter c ∨ IsDigit c := by
    rw [← isAlpha_iff, ← isDigit_iff, ← Bool.or_eq_true]
    rfl
  rw [isIdentifierChar, Bool.or_eq_true, alphanum, decide_eq_true_eq, or_assoc]

theorem isName_iff {s : String} : isName s = true ↔ IsPlain s := by
  unfold isName
  split
  · next hs => exact ⟨nofun, fun h => by simpa [hs] using h.starts⟩
  · next c rest hs =>
    rw [Bool.and_eq_true, isIdentifierHead_iff, List.all_eq_true]
    simp only [isIdentifierChar_iff]
    constructor
    · rintro ⟨head, tail⟩
      refine ⟨⟨c, by rw [hs]; rfl, head⟩, ?_⟩
      rw [hs]
      exact List.forall_mem_cons.mpr ⟨head.imp_right .inr, tail⟩
    · rintro ⟨⟨d, hd, head⟩, all⟩
      rw [hs] at hd all
      obtain rfl := Option.some.inj hd
      exact ⟨head, (List.forall_mem_cons.mp all).2⟩

/-- By induction: a line feed is let through where the text ends, and nowhere else. -/
theorem continuesIdentifier_iff {cs : List Char} : continuesIdentifier cs = true ↔
    ∃ ds, ds.all isIdentifierChar = true ∧ (cs = ds ∨ cs = ds ++ ['\n']) := by
  induction cs with
  | nil => exact ⟨fun _ => ⟨[], rfl, .inl rfl⟩, fun _ => rfl⟩
  | cons c rest ih =>
    rw [continuesIdentifier, Bool.or_eq_true, Bool.and_eq_true, ih]
    constructor
    · rintro (⟨hc, ds, hds, he⟩ | h)
      · refine ⟨c :: ds, by simp [hc, hds], ?_⟩
        exact he.imp (congrArg (c :: ·)) (congrArg (c :: ·))
      · obtain ⟨rfl, rfl⟩ : c = '\n' ∧ rest = [] := by simpa using h
        exact ⟨[], rfl, .inr rfl⟩
    · rintro ⟨_ | ⟨d, ds⟩, hds, he⟩
      · refine .inr ?_
        obtain ⟨rfl, rfl⟩ : c = '\n' ∧ rest = [] := by simpa using he
        rfl
      · refine .inl ?_
        obtain ⟨hd, hr⟩ := Bool.and_eq_true _ _ ▸ hds
        rcases he with he | he
        · obtain ⟨rfl, rfl⟩ := List.cons.inj he
          exact ⟨hd, rest, hr, .inl rfl⟩
        · obtain ⟨rfl, rfl⟩ := List.cons.inj he
          exact ⟨hd, ds, hr, .inr rfl⟩

/-- **An identifier is a plain text, up to a line feed behind it.** -/
theorem isIdentifier_iff {s : String} : isIdentifier s.toList = true ↔ IsInlinable s := by
  constructor
  · intro h
    unfold isIdentifier at h
    split at h
    · cases h
    · next c rest hs =>
      obtain ⟨hc, hr⟩ := Bool.and_eq_true _ _ ▸ h
      obtain ⟨ds, hds, he⟩ := continuesIdentifier_iff.mp hr
      refine ⟨String.ofList (c :: ds), isName_iff.mp (by simp [isName, hc, hds]), ?_⟩
      rw [← String.toList_inj, ← String.toList_inj, hs]
      simpa using he
  · rintro ⟨t, plain, he⟩
    have name := isName_iff.mpr plain
    unfold isName at name
    split at name
    · cases name
    · next c rest ht =>
      obtain ⟨hc, hr⟩ := Bool.and_eq_true _ _ ▸ name
      rcases he with rfl | rfl
      · rw [ht, isIdentifier, hc, continuesIdentifier_iff.mpr ⟨rest, hr, .inl rfl⟩]
        rfl
      · have line : "\n".toList = ['\n'] := rfl
        rw [String.toList_append, ht, line, List.cons_append, isIdentifier, hc,
          continuesIdentifier_iff.mpr ⟨rest, hr, .inr rfl⟩]
        rfl

namespace Identifier

theorem inlinable (i : Identifier) : IsInlinable i.text := isIdentifier_iff.mp i.accepted

/-- **What is let through**, and that it is let through as it is. -/
theorem require_text_eq_ok_iff {v : Value} {kind s : String} :
    (require v kind).map text = .ok s ↔ v = .text s ∧ IsInlinable s := by
  rw [Outcome.map_eq_ok]
  constructor
  · rintro ⟨i, hi, rfl⟩
    exact ⟨require_eq_ok_iff.mp hi, i.inlinable⟩
  · rintro ⟨rfl, hs⟩
    exact ⟨⟨s, isIdentifier_iff.mpr hs⟩, require_eq_ok_iff.mpr rfl, rfl⟩

/-- What is not let through is complained about. -/
theorem require_eq_error {v : Value} (h : ¬ ∃ s, v = .text s ∧ IsInlinable s) (kind : String) :
    require v kind = .error (.invalidIdentifier v kind) := by
  cases hr : require v kind with
  | ok i => exact absurd ⟨i.text, require_eq_ok_iff.mp hr, i.inlinable⟩ h
  | error e =>
    unfold require at hr
    split at hr
    · cases hr
    · exact hr.symm

end Identifier

/-! ### What statements are made of -/

/-- The client's own words: what its templates and clauses consist of, apart from names. -/
def ownWords : List String :=
  -- Nodes that are matched, created or merged.
  ["CREATE (n:", "MERGE (n:", "MATCH (n:", "\x7b", "\x7d) RETURN n", "\x7d) ", " ", " RETURN n",
    "\x7bIsDeleted:false\x7d) RETURN n", ":$value,IsDeleted:false\x7d) RETURN n",
    ",IsDeleted:false\x7d)", " RETURN ", "n", "rNode", "RETURN n",
    "\x7bUuid:$Uuid,IsDeleted:false\x7d) SET ", "\x7bUuid:$Uuid,IsDeleted:false\x7d) ",
    "SET n.UpdatedAt=$UpdatedAt,n.IsDeleted=true RETURN n", "\x7bUuid:$Uuid\x7d) DETACH DELETE n",
    "\x7d) DETACH DELETE n", "ON CREATE SET ", "ON MATCH SET ",
    "MATCH (n\x7bUuid:$Uuid\x7d) SET n:",
    -- Edges.
    "MATCH (from\x7bUuid:$uuidFrom\x7d),(to\x7bUuid:$uuidTo\x7d) ", "CREATE (from)", "MERGE (from)",
    "MATCH (\x7bUuid:$uuidIncoming\x7d)", "<-", "-", "->", "[r:", "]", "(to) RETURN r",
    "(\x7bUuid:$uuidOutgoing\x7d) DELETE r", "(rNode:", "\x7bIsDeleted:false\x7d)",
    -- Clauses.
    "Uuid:$uuid", "Uuid", ":$", "n.", "=$", ",", "create_", "match_", "r_", "\x7d"]

/-- A text that is made of the client's own words and of names that were let through. -/
inductive MadeOfNames : String → Prop
  /-- There is nothing in it. -/
  | nothing : MadeOfNames ""
  /-- It starts with a word of the client. -/
  | word {w s : String} (h : w ∈ ownWords) (rest : MadeOfNames s) : MadeOfNames (w ++ s)
  /-- It starts with a name. -/
  | name {n s : String} (h : IsInlinable n) (rest : MadeOfNames s) : MadeOfNames (n ++ s)

namespace MadeOfNames

theorem append {s t : String} (hs : MadeOfNames s) (ht : MadeOfNames t) : MadeOfNames (s ++ t) := by
  induction hs with
  | nothing => rwa [String.empty_append]
  | word h _ ih =>
    rw [String.append_assoc]
    exact .word h ih
  | name h _ ih =>
    rw [String.append_assoc]
    exact .name h ih

theorem of_word {w : String} (h : w ∈ ownWords) : MadeOfNames w :=
  String.append_empty (s := w) ▸ .word h .nothing

theorem of_name {n : String} (h : IsInlinable n) : MadeOfNames n :=
  String.append_empty (s := n) ▸ .name h .nothing

theorem intercalate {parts : List String} (h : ∀ part ∈ parts, MadeOfNames part) :
    MadeOfNames (clauseSeparator.intercalate parts) := by
  induction parts with
  | nil => exact .nothing
  | cons part rest ih =>
    obtain ⟨hp, hr⟩ := List.forall_mem_cons.mp h
    rcases rest with _ | ⟨next, rest⟩
    · simpa using hp
    · rw [String.intercalate_cons_cons, String.append_assoc]
      exact hp.append (.word (by decide) (ih hr))

end MadeOfNames

/-- A clause is made of the names of its properties, if its prefix is a word of the client. -/
theorem Clause.madeOfNames_text {form : ClauseForm} {paramPrefix : String} {values : Parameters}
    (hf : form = .condition ∨ form = .assignment nodeVariable)
    (hp : MadeOfNames paramPrefix) (hv : ∀ k ∈ Assoc.keys values, isIdentifier k.toList = true) :
    MadeOfNames (ofValues form paramPrefix values).text := by
  rw [text_ofValues]
  refine .intercalate fun part hm => ?_
  obtain ⟨key, hk, rfl⟩ := List.mem_map.mp hm
  have name := isIdentifier_iff.mp (hv key hk)
  rcases hf with rfl | rfl
  · have read : textOf .condition paramPrefix key = key ++ (":$" ++ (paramPrefix ++ key)) := by
      simp [textOf, Binding.text, Binding.ofEntry, String.append_assoc]
    rw [read]
    exact .name name (.word (by decide) (hp.append (.of_name name)))
  · have read : textOf (.assignment nodeVariable) paramPrefix key =
        "n." ++ (key ++ ("=$" ++ (paramPrefix ++ key))) := by
      rw [← String.toList_inj]
      simp [textOf, Binding.text, Binding.ofEntry, nodeVariable]
    rw [read]
    exact .word (by decide) (.name name (.word (by decide) (hp.append (.of_name name))))

namespace Wording

/-! ### Wordings -/

variable (label : Identifier) {conditions clause : String}

theorem madeOfNames_create (hc : MadeOfNames conditions) :
    MadeOfNames (create label.text conditions) :=
  .word (by decide) (.name label.inlinable (.word (by decide) (hc.append (.of_word (by decide)))))

theorem madeOfNames_merge {onCreate onMatch : String} (hc : MadeOfNames conditions)
    (hn : MadeOfNames onCreate) (hm : MadeOfNames onMatch) :
    MadeOfNames (merge label.text conditions onCreate onMatch) :=
  .word (by decide) (.name label.inlinable (.word (by decide) (hc.append (.word (by decide)
    (hn.append (.word (by decide) (hm.append (.of_word (by decide)))))))))

theorem madeOfNames_getAll : MadeOfNames (getAll label.text) :=
  .word (by decide) (.name label.inlinable (.of_word (by decide)))

theorem madeOfNames_getByProperty {property : String} (h : IsInlinable property) :
    MadeOfNames (getByProperty label.text property) :=
  .word (by decide) (.name label.inlinable (.word (by decide) (.name h (.of_word (by decide)))))

theorem madeOfNames_getByProperties {path result : String} (hc : MadeOfNames clause)
    (hp : MadeOfNames path) (hr : result ∈ ownWords) :
    MadeOfNames (getByProperties label.text clause path result) :=
  .word (by decide) (.name label.inlinable (.word (by decide) (hc.append (.word (by decide)
    (hp.append (.word (by decide) (.of_word hr)))))))

theorem madeOfNames_update {ending : String} (hc : MadeOfNames clause) (he : MadeOfNames ending) :
    MadeOfNames (update label.text clause ending) :=
  .word (by decide) (.name label.inlinable (.word (by decide) (hc.append (.word (by decide) he))))

theorem madeOfNames_delete : MadeOfNames (delete label.text) :=
  .word (by decide) (.name label.inlinable (.word (by decide) (.of_word (by decide))))

theorem madeOfNames_drop : MadeOfNames (drop label.text) :=
  .word (by decide) (.name label.inlinable (.of_word (by decide)))

theorem madeOfNames_dropByProperties (hc : MadeOfNames clause) :
    MadeOfNames (dropByProperties label.text clause) :=
  .word (by decide) (.name label.inlinable (.word (by decide) (hc.append (.of_word (by decide)))))

theorem madeOfNames_fromPart (r : Relationship) : MadeOfNames r.fromPart := by
  unfold Relationship.fromPart
  cases r.direction <;> exact .of_word (by decide)

theorem madeOfNames_toPart (r : Relationship) : MadeOfNames r.toPart := by
  unfold Relationship.toPart
  cases r.direction <;> exact .of_word (by decide)

/-- An edge up to its name, and what follows it. -/
theorem madeOfNames_edge (r : Relationship) {s : String} (hs : MadeOfNames s) :
    MadeOfNames (r.fromPart ++ ("[r:" ++ (r.name.text ++ s))) :=
  (madeOfNames_fromPart r).append (.word (by decide) (.name r.name.inlinable hs))

theorem madeOfNames_createRelationship (r : Relationship) (hc : MadeOfNames clause) :
    MadeOfNames (createRelationship r clause) :=
  .word (by decide) (.word (by decide) (madeOfNames_edge r (hc.append (.word (by decide)
    ((madeOfNames_toPart r).append (.of_word (by decide)))))))

theorem madeOfNames_mergeRelationship (r : Relationship) : MadeOfNames (mergeRelationship r) :=
  .word (by decide) (.word (by decide) (madeOfNames_edge r (.word (by decide)
    ((madeOfNames_toPart r).append (.of_word (by decide))))))

theorem madeOfNames_dropRelationship (r : Relationship) : MadeOfNames (dropRelationship r) := by
  unfold dropRelationship
  exact .word (by decide) (madeOfNames_edge r (.word (by decide)
    ((madeOfNames_toPart r).append (.of_word (by decide)))))

theorem madeOfNames_addLabel : MadeOfNames (addLabel label.text) := by
  unfold addLabel
  exact .word (by decide) (.of_name label.inlinable)

theorem madeOfNames_lookup (edge : Relationship) (related : Identifier) :
    MadeOfNames (lookup label.text edge related.text) := by
  have path : edge.pattern ++ Relationship.relatedNodePattern related.text =
      (edge.fromPart ++ ("[r:" ++ (edge.name.text ++ ("]" ++ edge.toPart)))) ++
        ("(rNode:" ++ (related.text ++ "\x7bIsDeleted:false\x7d)")) := by
    rw [← String.toList_inj]
    simp [Relationship.pattern, Relationship.relatedNodePattern, relatedVariable, deletedKey]
  rw [lookup, path]
  have node : MadeOfNames ("(rNode:" ++ (related.text ++ "\x7bIsDeleted:false\x7d)")) :=
    .word (by decide) (.name related.inlinable (.of_word (by decide)))
  exact madeOfNames_getByProperties label (.of_word (by decide)) ((madeOfNames_edge edge
    (.word (by decide) (madeOfNames_toPart edge))).append node) (by decide)

end Wording

/-! ### Names of a declaration and names of a call -/

/-- The name of the edge that a field is loaded through. -/
def FieldDescriptor.edgeName? (f : FieldDescriptor) : Option String :=
  match f.role with
  | .relationship edge _ _ => some edge.name.text
  | _ => none

/-- The names that the declaration of a type puts into statements: its label, the properties of its
stored fields, and the edges that the others are loaded through. -/
def Descriptor.inlinedNames (d : Descriptor) : List String :=
  d.label.text :: (d.persistableFields.map (·.key) ++ d.fields.filterMap (·.edgeName?))

/-- The names that a call puts into a statement: the label, the name of the edge, and the properties
that the names of a property map stand for. -/
def Operation.givenNames (c : Catalog) : Operation → List String
  | merge onCreate _ properties =>
    namesOf (c.describeEntity onCreate) fun d => d.translatedKeys properties
  | dropByProperties type properties | getByProperties type properties =>
    namesOf (c.describe type) fun d => d.translatedKeys properties
  | getByProperty type name _ =>
    namesOf (c.describe type) fun d => (d.graphKey name).text?.toList
  | createRelationship _ _ edge? properties =>
    (edge?.map (·.name.text)).toList ++
      (Assoc.keys (properties.entries?.getD [])).filterMap Value.text?
  | mergeRelationship _ _ edge? | dropRelationship _ _ edge? => (edge?.map (·.name.text)).toList
  | addLabel _ label => label.text?.toList
  | _ => []

theorem Descriptor.inlinable_of_mem {c : Catalog} {r : EntityRef} {d : Descriptor}
    (h : c.describeRef r = .ok d) : ∀ name ∈ d.inlinedNames, IsInlinable name := by
  intro name hm
  rcases List.mem_cons.mp hm with rfl | hm
  · exact d.label.inlinable
  rcases List.mem_append.mp hm with hm | hm
  · obtain ⟨f, hf, rfl⟩ := List.mem_map.mp hm
    obtain ⟨hf, hs⟩ := List.mem_filter.mp hf
    exact isIdentifier_iff.mp (c.isIdentifier_key h hf hs)
  · obtain ⟨f, -, he⟩ := List.mem_filterMap.mp hm
    unfold FieldDescriptor.edgeName? at he
    split at he
    · next edge _ _ _ =>
      obtain rfl := Option.some.inj he
      exact edge.name.inlinable
    · cases he

/-- A statement that is made of names, where those that are given with a call are let through. -/
structure Inlines (given : List String) (statement : String) : Prop where
  /-- What is given. -/
  given : ∀ name ∈ given, IsInlinable name
  /-- What the statement is made of. -/
  madeOfNames : MadeOfNames statement

namespace Request

variable {c : Catalog} {now : Float} {identifier : String} {r : Request}

/-- A condition without a prefix. -/
theorem madeOfNames_condition {values : Parameters}
    (hv : ∀ k ∈ Assoc.keys values, isIdentifier k.toList = true) :
    MadeOfNames (Clause.ofValues .condition "" values).text :=
  Clause.madeOfNames_text (.inl rfl) .nothing hv

/-- The properties that a property map stands for, where they are all let through. -/
theorem inlinable_of_translated {d : Descriptor} {properties : Value} {entries : Entries}
    {values : Parameters} (hp : properties.mapping? = some entries)
    (hv : d.translate entries = Value.ofNames values)
    (hk : ∀ k ∈ Assoc.keys values, isIdentifier k.toList = true) :
    ∀ name ∈ d.translatedKeys properties, IsInlinable name := by
  rw [Descriptor.translatedKeys_eq hp hv]
  exact fun name hn => isIdentifier_iff.mp (hk name hn)

theorem inlines_add {entity : Value} (h : add c identifier entity = .ok r) :
    Inlines [] r.statement := by
  obtain ⟨type, d, -, hd, rfl⟩ := add_eq_ok h
  exact ⟨by simp, Wording.madeOfNames_create d.label (madeOfNames_condition
    fun _ hk => isIdentifier_of_mem_createdValues identifier entity hd hk)⟩

theorem inlines_update {skipNull fetch : Bool} {entity uuid : Value}
    (h : update c now skipNull entity uuid fetch = .ok r) : Inlines [] r.statement := by
  obtain ⟨type, id, d, ht, rfl, hd, rfl⟩ := update_eq_ok h
  have ending : MadeOfNames (if fetch then "RETURN " ++ nodeVariable else "") := by
    cases fetch
    · exact .nothing
    · exact .of_word (by decide)
  have updated : MadeOfNames (Clause.ofValues (.assignment nodeVariable) ""
      (updatedValues d skipNull (written now entity id))).text :=
    Clause.madeOfNames_text (.inr rfl) .nothing fun _ hk => isIdentifier_of_mem_updatedValues hd hk
  exact ⟨by simp, Wording.madeOfNames_update d.label updated ending⟩

theorem inlines_merge {onCreate onUpdate properties : Value}
    (h : merge c now identifier onCreate onUpdate properties = .ok r) :
    Inlines ((Operation.merge onCreate onUpdate properties).givenNames c) r.statement := by
  obtain ⟨type, updatedType, entries, d, u, values, ht, -, hp, -, hd, hu, hv, hk, rfl⟩ :=
    merge_eq_ok h
  have created : MadeOfNames (Clause.ofValues (.assignment nodeVariable) onCreatePrefix
      (createdValues d onCreate identifier)).text :=
    Clause.madeOfNames_text (.inr rfl) (.of_word (by decide))
      fun _ hk => isIdentifier_of_mem_createdValues identifier onCreate hd hk
  have updated : MadeOfNames (Clause.ofValues (.assignment nodeVariable) onMatchPrefix
      (updatedValues u false (stamped now onUpdate))).text :=
    Clause.madeOfNames_text (.inr rfl) (.of_word (by decide))
      fun _ hk => isIdentifier_of_mem_updatedValues hu hk
  have matched : MadeOfNames (onMatch (.ofValues (.assignment nodeVariable) onMatchPrefix
      (updatedValues u false (stamped now onUpdate)))) := by
    unfold onMatch
    split
    · exact .nothing
    · exact .word (by decide) updated
  refine ⟨?_, Wording.madeOfNames_merge d.label (madeOfNames_condition hk)
    (.word (by decide) created) matched⟩
  rw [Operation.givenNames, Catalog.describeEntity_eq ht hd, namesOf_ok]
  exact inlinable_of_translated hp hv hk

theorem inlines_createRelationship {fromUuid toUuid properties : Value}
    {edge? : Option Relationship}
    (h : createRelationship fromUuid toUuid edge? properties = .ok r) :
    Inlines ((Operation.createRelationship fromUuid toUuid edge? properties).givenNames c)
      r.statement := by
  obtain ⟨fromId, toId, edge, values, -, -, rfl, hp, hk, rfl⟩ := createRelationship_eq_ok h
  have names : (Assoc.keys (properties.entries?.getD [])).filterMap Value.text? =
      Assoc.keys values := by
    rw [← Value.filterMap_text?_keys_ofNames]
    split at hp
    · rw [hp, Option.getD_some]
    · next empty =>
      -- Of what counts as false, only what is empty has entries.
      obtain rfl : values = [] := by simpa [Value.ofNames] using hp
      have none : properties.entries?.getD [] = [] := by
        cases properties <;> simp_all [Value.entries?, Value.truthy]
      rw [none]
      rfl
  have clause : MadeOfNames (Clause.ofValues .condition relationshipPrefix values).text :=
    Clause.madeOfNames_text (.inl rfl) (.of_word (by decide)) hk
  have inside : MadeOfNames (braced (.ofValues .condition relationshipPrefix values)) := by
    unfold braced
    split
    · exact .nothing
    · exact (MadeOfNames.word (by decide) clause).append (.of_word (by decide))
  refine ⟨?_, Wording.madeOfNames_createRelationship edge inside⟩
  rw [Operation.givenNames, names]
  intro name hm
  rcases List.mem_append.mp hm with hm | hm
  · obtain rfl := List.mem_singleton.mp hm
    exact edge.name.inlinable
  · exact isIdentifier_iff.mp (hk name hm)

end Request

/-- **What an operation requests is made of names**, and the names that are given with the call are
let through. -/
theorem Operation.inlines_request {c : Catalog} {now : Float} {identifier : String}
    {operation : Operation} (ho : operation.isCustom = false) {r : Request}
    (h : operation.request c now identifier = .ok r) :
    Inlines (operation.givenNames c) r.statement := by
  cases operation with
  | add entity => exact Request.inlines_add h
  | update entity uuid fetch => exact Request.inlines_update h
  | partialUpdate entity uuid fetch => exact Request.inlines_update h
  | merge onCreate onUpdate properties => exact Request.inlines_merge h
  | delete type uuid =>
    obtain ⟨id, t, d, -, -, -, rfl⟩ := Request.delete_eq_ok h
    exact ⟨by simp [givenNames], Wording.madeOfNames_delete d.label⟩
  | drop type uuid =>
    obtain ⟨id, d, -, -, rfl⟩ := Request.drop_eq_ok h
    exact ⟨by simp [givenNames], Wording.madeOfNames_drop d.label⟩
  | dropByProperties type properties =>
    obtain ⟨entries, d, values, hp, -, hd, hv, hk, rfl⟩ := Request.dropByProperties_eq_ok h
    refine ⟨?_, Wording.madeOfNames_dropByProperties d.label (Request.madeOfNames_condition hk)⟩
    rw [givenNames, hd, namesOf_ok]
    exact Request.inlinable_of_translated hp hv hk
  | getByProperty type name value =>
    obtain ⟨property, t, d, key, rfl, rfl, hd, hp, hk, rfl⟩ := Request.getByProperty_eq_ok h
    have described : c.describe (.type (.entity t)) = .ok d := hd
    refine ⟨?_, Wording.madeOfNames_getByProperty d.label (isIdentifier_iff.mp hk)⟩
    rw [givenNames, described, namesOf_ok, hp]
    intro name hm
    obtain rfl : name = key := List.mem_singleton.mp hm
    exact isIdentifier_iff.mp hk
  | getByProperties type properties =>
    obtain ⟨entries, t, d, values, hp, -, rfl, hd, hv, hk, rfl⟩ := Request.getByProperties_eq_ok h
    have described : c.describe (.type (.entity t)) = .ok d := hd
    refine ⟨?_, Wording.madeOfNames_getByProperties d.label (Request.madeOfNames_condition hk)
      .nothing (by decide)⟩
    rw [givenNames, described, namesOf_ok]
    exact Request.inlinable_of_translated hp hv hk
  | getAll type =>
    obtain ⟨t, d, -, -, rfl⟩ := Request.getAll_eq_ok h
    exact ⟨by simp [givenNames], Wording.madeOfNames_getAll d.label⟩
  | getByUuid type uuid =>
    obtain ⟨id, t, d, -, -, -, rfl⟩ := Request.getByUuid_eq_ok h
    exact ⟨by simp [givenNames],
      Wording.madeOfNames_getByProperty d.label (isIdentifier_iff.mp (by decide))⟩
  | createRelationship fromUuid toUuid edge? properties =>
    exact Request.inlines_createRelationship h
  | mergeRelationship fromUuid toUuid edge? =>
    obtain ⟨fromId, toId, edge, -, -, rfl, rfl⟩ := Request.mergeRelationship_eq_ok h
    exact ⟨by simp [givenNames, edge.name.inlinable], Wording.madeOfNames_mergeRelationship edge⟩
  | dropRelationship incomingUuid outgoingUuid edge? =>
    obtain ⟨incoming, outgoing, edge, -, -, rfl, rfl⟩ := Request.dropRelationship_eq_ok h
    exact ⟨by simp [givenNames, edge.name.inlinable], Wording.madeOfNames_dropRelationship edge⟩
  | addLabel uuid label =>
    obtain ⟨id, i, -, rfl, rfl⟩ := Request.addLabel_eq_ok h
    exact ⟨by simp [givenNames, Value.text?, i.inlinable], Wording.madeOfNames_addLabel i⟩
  | runQuery query parameters => cases ho
  | runQueryAs type query parameters => cases ho

theorem IsLookup.madeOfNames {statement : String} {parameters : Value}
    (h : IsLookup statement parameters) : MadeOfNames statement := by
  obtain ⟨label, edge, related, uuid, rfl, -⟩ := h
  exact Wording.madeOfNames_lookup label edge related

namespace Client

variable {σ : Type} [Database σ]

/-- What is sent, lookups included, is made of names, and the names that are given with the call are
let through. -/
theorem inlines_of_mem_statements (c : Catalog) {operation : Operation}
    (ho : operation.isCustom = false) (w : World σ) :
    ∀ sent ∈ (perform c operation).statements w, Inlines (operation.givenNames c) sent.1 := by
  intro sent hsent
  obtain ⟨r, v, hr, -, hv⟩ := exists_request (List.ne_nil_of_mem hsent)
  have root := operation.inlines_request ho hr
  obtain ⟨values, hp⟩ := operation.exists_parameters ho hr
  have asks : Asks (Sends fun statement _ => MadeOfNames statement)
      (send c r : Action σ Value) :=
    within_send (fun _ _ lookup => sends_execute lookup.madeOfNames) hp
      (sends_execute root.madeOfNames)
  rw [hv] at hsent
  exact ⟨root.given, asks.holds v sent hsent⟩

/-- **Identifiers only.** Whatever is let through as an identifier is a plain text or a plain text
with a line feed behind it; it is let through as it is, and everything else is complained about.
This holds of the names in the declaration of a type that can be described, of the names that are
given with a call that sends a statement, and of the names of relationships; and statements are made
of such names and of the client's own words. -/
theorem inlinable_of_mem_statements (c : Catalog) {operation : Operation}
    (ho : operation.isCustom = false) (w : World σ) :
    (∀ (v : Value) (kind s : String),
      (Identifier.require v kind).map Identifier.text = .ok s ↔ v = .text s ∧ IsInlinable s) ∧
    (∀ (v : Value) (kind : String), (¬ ∃ s, v = .text s ∧ IsInlinable s) →
      Identifier.require v kind = .error (.invalidIdentifier v kind)) ∧
    (∀ (r : EntityRef) (d : Descriptor), c.describeRef r = .ok d →
      ∀ name ∈ d.inlinedNames, IsInlinable name) ∧
    (∀ (name : Value) (direction : Option Value) (edge : Relationship),
      Relationship.ofValues name direction = .ok edge →
        name = .text edge.name.text ∧ IsInlinable edge.name.text) ∧
    ∀ sent ∈ (perform c operation).statements w,
      (∀ name ∈ operation.givenNames c, IsInlinable name) ∧ MadeOfNames sent.1 := by
  refine ⟨fun _ _ _ => Identifier.require_text_eq_ok_iff, fun _ kind h =>
    Identifier.require_eq_error h kind, fun _ _ => Descriptor.inlinable_of_mem, ?_, ?_⟩
  · intro name direction edge h
    obtain ⟨i, hi, h⟩ := Outcome.bind_eq_ok.mp h
    have named : edge.name = i := by
      split at h
      · rw [← Outcome.pure_eq_ok.mp h]
      · split at h
        · rw [← Outcome.pure_eq_ok.mp h]
        · cases h
    exact ⟨named ▸ Identifier.require_eq_ok_iff.mp hi, edge.name.inlinable⟩
  · intro sent hs
    obtain ⟨given, made⟩ := inlines_of_mem_statements c ho w sent hs
    exact ⟨given, made⟩

/-- The statement that adds a label to a user is made of plain names, and of the label. -/
theorem inlinable_of_mem_statements_users :
    ((perform Example.users (.addLabel (.text "u1") (.text "Admin"))).statements
        (Example.connected [])).length = 1 ∧
      ∀ sent ∈ (perform Example.users (.addLabel (.text "u1") (.text "Admin"))).statements
        (Example.connected []),
          (∀ name ∈ ["Admin"], IsInlinable name) ∧ MadeOfNames sent.1 :=
  ⟨by decide +kernel, (inlinable_of_mem_statements Example.users rfl _).2.2.2.2⟩

/-- **A line feed gets into a statement**: behind a label it is let through, although such a label
is not plain. -/
theorem not_plain_of_addLabel :
    ¬ ∀ (label : String) (sent : String × Value),
      sent ∈ (perform Example.users (.addLabel (.text "u1") (.text label))).statements
        (Example.connected []) → IsPlain label := by
  intro claim
  have sends : ((perform Example.users (.addLabel (.text "u1") (.text "Admin\n"))).statements
      (Example.connected [])).isEmpty = false := by
    decide +kernel
  obtain ⟨sent, hs⟩ := List.exists_mem_of_ne_nil _ (List.isEmpty_eq_false_iff.mp sends)
  have name : isName "Admin\n" = true := isName_iff.mpr (claim _ _ hs)
  exact absurd name (by decide)

end Client

end GraphMapper
