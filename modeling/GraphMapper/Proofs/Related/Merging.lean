import GraphMapper.Proofs.Equality
import GraphMapper.Proofs.FirstUse

/-!
# Merging what a node is related to

The properties of a node are completed by what is looked up through its relationship fields. How
the lookups are run is left open here: an arbitrary `GraphMapper.Lookup` gives results or fails,
and changes the world as it likes.

Looking up fields one after the other makes a chain of **findings**, each in the world that the one
before it has left (`GraphMapper.Related.Follows`), and it may **break** at a field
(`GraphMapper.Related.Breaks`): the statement fails, or a row holds what is no node. Since the world
after a chain is the one that its last lookup left, nothing else has been run.

What comes of a chain is a map (`GraphMapper.Related.Merged`): under the property of a field that
led to something it holds what the *last* such field led to, and under any other key what the node
held. The invariant behind it is that the findings so far are put into a map entry by entry
(`GraphMapper.Related.collected_eq_update`), and that a map made of entries holds what the last
entry with a key says. `GraphMapper.Related.withRelated_merges` puts it all together.
-/

namespace GraphMapper

open GraphMapper.Action

/-! ### Texts as keys -/

namespace Value

variable {k v : Value} {s : String} {entries : Entries}

theorem lookup_set_text_self : (Assoc.set (.text s) v entries).lookup (.text s) = some v := by
  induction entries with
  | nil => rw [Assoc.set_nil, List.lookup_cons, text_beq_self]
  | cons e rest ih =>
    rw [Assoc.set]
    split
    · next same => rw [eq_text_of_beq same, List.lookup_cons, text_beq_self]
    · next other =>
      have miss : (Value.text s == e.1) = false := by
        refine Bool.eq_false_iff.mpr fun same => other ?_
        rw [eq_text_of_text_beq same, text_beq_self]
      rw [List.lookup_cons, miss]
      exact ih

theorem lookup_set_text_of_ne (h : k ≠ .text s) :
    (Assoc.set (.text s) v entries).lookup k = entries.lookup k := by
  have miss : (k == .text s) = false := Bool.eq_false_iff.mpr fun same => h (eq_text_of_beq same)
  induction entries with
  | nil => rw [Assoc.set_nil, List.lookup_cons, miss]
  | cons e rest ih =>
    rw [Assoc.set]
    split
    · next same => rw [List.lookup_cons, List.lookup_cons, eq_text_of_beq same, miss]
    · rw [List.lookup_cons, List.lookup_cons, ih]

/-- Setting texts leaves what other keys hold. -/
theorem lookup_update_of_ne {values : Parameters} (h : ∀ s ∈ Assoc.keys values, k ≠ .text s) :
    (Assoc.update entries (ofNames values)).lookup k = entries.lookup k := by
  induction values generalizing entries with
  | nil => rfl
  | cons e rest ih =>
    obtain ⟨first, others⟩ := List.forall_mem_cons.mp h
    exact (ih others).trans (lookup_set_text_of_ne first)

/-- Of the values that are set under a text, the last counts. -/
theorem lookup_update_text (values : Parameters) :
    (Assoc.update entries (ofNames values)).lookup (.text s) =
      (values.reverse.lookup s).or (entries.lookup (.text s)) := by
  induction values generalizing entries with
  | nil => rfl
  | cons e rest ih =>
    rw [List.reverse_cons, List.lookup_append, Option.or_assoc]
    have others :
        (Assoc.update (Assoc.set (.text e.1) e.2 entries) (ofNames rest)).lookup (.text s) =
          (rest.reverse.lookup s).or ((Assoc.set (.text e.1) e.2 entries).lookup (.text s)) := ih
    refine others.trans ?_
    congr 1
    by_cases same : s = e.1
    · rw [same, lookup_set_text_self, List.lookup_cons, beq_self_eq_true]
      rfl
    · rw [lookup_set_text_of_ne (by simpa using same), List.lookup_cons,
        beq_eq_false_iff_ne.mpr same]
      rfl

end Value

/-! ### What rows give -/

namespace Record

/-- **What a row gives**: null for null, and the map of its properties for anything that lists
properties. -/
inductive Gives (r : Record) : Value → Prop where
  /-- There is no node. -/
  | null (isNull : r.first = .null) : Gives r .null
  /-- There is one. -/
  | node {entries : Entries} (lists : r.first.entries? = some entries) :
    Gives r (.map (Assoc.ofEntries entries))

/-- A row that holds neither null nor anything that lists properties. -/
def Foreign (r : Record) : Prop := r.first ≠ .null ∧ r.first.entries? = none

end Record

namespace Related

theorem nodeOf_eq_ok_iff {r : Record} {v : Value} : nodeOf r = .ok v ↔ r.Gives v := by
  unfold nodeOf
  constructor
  · intro h
    obtain ⟨properties?, known, h⟩ := Outcome.bind_eq_ok.mp h
    unfold Value.nodeProperties at known
    split at known
    · next isNull =>
      obtain rfl := Except.ok.inj known
      obtain rfl := Outcome.pure_eq_ok.mp h
      exact .null isNull
    · split at known
      · next entries lists =>
        obtain rfl := Except.ok.inj known
        obtain rfl := Outcome.pure_eq_ok.mp h
        exact .node lists
      · cases known
  · intro gives
    cases gives with
    | null isNull =>
      rw [isNull]
      rfl
    | @node entries lists =>
      have known : r.first.nodeProperties = .ok (some (Assoc.ofEntries entries)) := by
        unfold Value.nodeProperties
        split
        · next isNull => rw [isNull] at lists; cases lists
        · rw [lists]
      rw [known]
      rfl

theorem nodeOf_of_foreign {r : Record} (h : r.Foreign) :
    nodeOf r = .error (.notANode r.first.kindName) := by
  obtain ⟨notNull, listless⟩ := h
  have known : r.first.nodeProperties = .error (.notANode r.first.kindName) := by
    unfold Value.nodeProperties
    split
    · next isNull => exact absurd isNull notNull
    · rw [listless]
  unfold nodeOf
  rw [known]
  rfl

theorem gives_or_foreign (r : Record) : (∃ v, r.Gives v) ∨ r.Foreign := by
  by_cases isNull : r.first = .null
  · exact .inl ⟨_, .null isNull⟩
  · cases lists : r.first.entries? with
    | some entries => exact .inl ⟨_, .node lists⟩
    | none => exact .inr ⟨isNull, lists⟩

/-- All rows give something, or there is a first one that does not. -/
theorem rows_cases (rows : List Record) : (∃ nodes, List.Forall₂ Record.Gives rows nodes) ∨
    ∃ before row after, rows = before ++ row :: after ∧
      (∃ nodes, List.Forall₂ Record.Gives before nodes) ∧ row.Foreign := by
  induction rows with
  | nil => exact .inl ⟨[], .nil⟩
  | cons row rest ih =>
    rcases gives_or_foreign row with ⟨v, gives⟩ | isForeign
    · rcases ih with ⟨nodes, others⟩ | ⟨before, next, after, rfl, ⟨nodes, others⟩, isForeign⟩
      · exact .inl ⟨v :: nodes, .cons gives others⟩
      · exact .inr ⟨row :: before, next, after, rfl, ⟨v :: nodes, .cons gives others⟩, isForeign⟩
    · exact .inr ⟨[], row, rest, rfl, ⟨[], .nil⟩, isForeign⟩

theorem mapM_nodeOf_eq_ok_iff {rows : List Record} {nodes : List Value} :
    rows.mapM nodeOf = .ok nodes ↔ List.Forall₂ Record.Gives rows nodes := by
  rw [Outcome.mapM_eq_ok]
  exact ⟨fun h => h.imp fun _ _ => nodeOf_eq_ok_iff.mp,
    fun h => h.imp fun _ _ => nodeOf_eq_ok_iff.mpr⟩

theorem mapM_nodeOf_of_foreign {before after : List Record} {nodes : List Value} {row : Record}
    (others : List.Forall₂ Record.Gives before nodes) (h : row.Foreign) :
    (before ++ row :: after).mapM nodeOf = .error (.notANode row.first.kindName) := by
  rw [List.mapM_append, mapM_nodeOf_eq_ok_iff.mpr others, List.mapM_cons, nodeOf_of_foreign h]
  rfl

/-! ### Chains of lookups -/

/-- What was found through a field. -/
structure Finding where
  /-- The field. -/
  field : FieldDescriptor
  /-- The statement that was run for it. -/
  text : String
  /-- Its result. -/
  result : Result
  /-- What the rows give, in order. -/
  nodes : List Value

variable {σ : Type}

/-- **Lookups that follow one another** from one world to another, each with a statement for its
field that is bound to the identifier of the node, and with rows that all give something. -/
inductive Follows (c : Catalog) (d : Descriptor) (lookup : Lookup σ) (uuid : Value) :
    World σ → List Finding → World σ → Prop where
  /-- Nothing is looked up. -/
  | nil (w : World σ) : Follows c d lookup uuid w [] w
  /-- The next field is looked up in the world that is left. -/
  | cons {w u v : World σ} {x : Finding} {rest : List Finding}
    (stated : statement c d x.field = .ok x.text)
    (ran : (lookup x.text (.ofParameters [(rootParameter, uuid)])).perform w = (.ok x.result, u))
    (rows : List.Forall₂ Record.Gives x.result.records x.nodes)
    (next : Follows c d lookup uuid u rest v) : Follows c d lookup uuid w (x :: rest) v

/-- **Looking up a field breaks** with a failure, which leaves a world. -/
inductive Breaks (c : Catalog) (d : Descriptor) (lookup : Lookup σ) (uuid : Value)
    (f : FieldDescriptor) (w : World σ) : Failure → World σ → Prop where
  /-- Its statement fails. -/
  | failed {text : String} {e : Failure} {u : World σ} (stated : statement c d f = .ok text)
    (ran : (lookup text (.ofParameters [(rootParameter, uuid)])).perform w = (.error e, u)) :
    Breaks c d lookup uuid f w e u
  /-- A row of its result holds no node; it is the first such row. -/
  | foreign {text : String} {result : Result} {u : World σ} {before after : List Record}
    {nodes : List Value} {row : Record} (stated : statement c d f = .ok text)
    (ran : (lookup text (.ofParameters [(rootParameter, uuid)])).perform w = (.ok result, u))
    (rows : result.records = before ++ row :: after)
    (others : List.Forall₂ Record.Gives before nodes) (isForeign : row.Foreign) :
    Breaks c d lookup uuid f w (.notANode row.first.kindName) u

/-- **Looking up a field stops** with a failure: its statement does not come about, and the world
stays as it is, or the lookup breaks. -/
inductive Stops (c : Catalog) (d : Descriptor) (lookup : Lookup σ) (uuid : Value)
    (f : FieldDescriptor) (w : World σ) : Failure → World σ → Prop where
  /-- Its statement does not come about. -/
  | unstated {e : Failure} (problem : statement c d f = .error e) : Stops c d lookup uuid f w e w
  /-- The lookup breaks. -/
  | broken {e : Failure} {u : World σ} (breaks : Breaks c d lookup uuid f w e u) :
    Stops c d lookup uuid f w e u

/-- Some findings put into a map, one after the other. -/
def collected (xs : List Finding) (found : Entries) : Entries :=
  xs.foldl (fun found x => collect x.field x.nodes found) found

section Chains

variable {c : Catalog} {d : Descriptor} {lookup : Lookup σ} {uuid : Value} {w u v : World σ}
  {xs : List Finding} {f : FieldDescriptor} {rest : List FieldDescriptor} {found : Entries}
  {e : Failure}

/-- After a chain of lookups the fields that are left are looked up. -/
theorem Follows.perform_fetchFields (h : Follows c d lookup uuid w xs v) :
    (fetchFields c lookup d uuid (xs.map Finding.field ++ rest) found).perform w =
      (fetchFields c lookup d uuid rest (collected xs found)).perform v := by
  induction h generalizing found with
  | nil => rfl
  | @cons w u v x xs stated ran rows _ ih =>
    have given : x.result.records.mapM nodeOf = .ok x.nodes := mapM_nodeOf_eq_ok_iff.mpr rows
    rw [List.map_cons, List.cons_append, fetchFields, stated,
      perform_bind_ok (perform_ofOutcome _ w), perform_bind_ok ran, given,
      perform_bind_ok (perform_ofOutcome _ u)]
    exact ih

theorem Breaks.perform_fetchFields (h : Breaks c d lookup uuid f w e u) :
    (fetchFields c lookup d uuid (f :: rest) found).perform w = (.error e, u) := by
  cases h with
  | failed stated ran =>
    rw [fetchFields, stated, perform_bind_ok (perform_ofOutcome _ w)]
    exact perform_bind_error ran
  | foreign stated ran rows others isForeign =>
    rw [fetchFields, stated, perform_bind_ok (perform_ofOutcome _ w), perform_bind_ok ran, rows,
      mapM_nodeOf_of_foreign others isForeign]
    exact perform_bind_error (perform_ofOutcome _ u)

theorem Stops.perform_fetchFields (h : Stops c d lookup uuid f w e u) :
    (fetchFields c lookup d uuid (f :: rest) found).perform w = (.error e, u) := by
  cases h with
  | unstated problem =>
    rw [fetchFields, problem]
    exact perform_bind_error (perform_ofOutcome _ w)
  | broken breaks => exact breaks.perform_fetchFields

/-- **Fields are looked up to the end, or up to the first that stops.** -/
theorem follows_or_stops (fields : List FieldDescriptor) (w : World σ) :
    (∃ xs v, Follows c d lookup uuid w xs v ∧ xs.map Finding.field = fields) ∨
      ∃ xs f rest v e u, Follows c d lookup uuid w xs v ∧
        fields = xs.map Finding.field ++ f :: rest ∧ Stops c d lookup uuid f v e u := by
  induction fields generalizing w with
  | nil => exact .inl ⟨[], w, .nil w, rfl⟩
  | cons f rest ih =>
    cases stated : statement c d f with
    | error e => exact .inr ⟨[], f, rest, w, e, w, .nil w, rfl, .unstated stated⟩
    | ok text =>
      rcases ran : (lookup text (.ofParameters [(rootParameter, uuid)])).perform w with
        ⟨e | result, u⟩
      · exact .inr ⟨[], f, rest, w, e, u, .nil w, rfl, .broken (.failed stated ran)⟩
      · rcases rows_cases result.records with
          ⟨nodes, rows⟩ | ⟨before, row, after, split, ⟨nodes, rows⟩, isForeign⟩
        · have link {xs : List Finding} {v : World σ} (next : Follows c d lookup uuid u xs v) :
              Follows c d lookup uuid w (⟨f, text, result, nodes⟩ :: xs) v :=
            .cons stated ran rows next
          rcases ih u with ⟨xs, v, next, rfl⟩ | ⟨xs, g, later, v, e, u', next, rfl, stops⟩
          · exact .inl ⟨_, v, link next, rfl⟩
          · exact .inr ⟨_, g, later, v, e, u', link next, rfl, stops⟩
        · exact .inr ⟨[], f, rest, w, _, u, .nil w, rfl,
            .broken (.foreign stated ran split rows isForeign)⟩

/-- Fields with statements are looked up to the end, or up to the first that breaks. -/
theorem follows_or_breaks {fields : List FieldDescriptor}
    (stated : ∀ f ∈ fields, ∃ text, statement c d f = .ok text) (w : World σ) :
    (∃ xs v, Follows c d lookup uuid w xs v ∧ xs.map Finding.field = fields) ∨
      ∃ xs f rest v e u, Follows c d lookup uuid w xs v ∧
        fields = xs.map Finding.field ++ f :: rest ∧ Breaks c d lookup uuid f v e u := by
  rcases follows_or_stops fields w with found | ⟨xs, f, rest, v, e, u, follows, upTo, stops⟩
  · exact .inl found
  · cases stops with
    | unstated problem =>
      obtain ⟨text, comes⟩ := stated f (by simp [upTo])
      rw [problem] at comes
      cases comes
    | broken breaks => exact .inr ⟨xs, f, rest, v, e, u, follows, upTo, breaks⟩

end Chains

/-! ### The map that findings make -/

/-- **A map in which findings are merged** into the properties of a node. -/
structure Merged (properties : Entries) (xs : List Finding) (merged : Entries) : Prop where
  /-- A key that is not the property of a field with rows holds what it held. -/
  kept : ∀ k, (∀ x ∈ xs, x.nodes ≠ [] → k ≠ .text x.field.key) →
    merged.lookup k = properties.lookup k
  /-- The property of fields with rows holds what the last such field leads to: all nodes, if the
  field may hold several, and the first node otherwise. -/
  holds : ∀ before x after, xs = before ++ x :: after → x.nodes ≠ [] →
    (∀ y ∈ after, y.nodes ≠ [] → y.field.key ≠ x.field.key) →
    ∀ edge related many, x.field.role = .relationship edge related many →
      merged.lookup (.text x.field.key) = if many then some (.list x.nodes) else x.nodes.head?

/-- What a finding puts into a map, if there are rows. -/
def Finding.entry? (x : Finding) : Option (String × Value) :=
  match x.nodes with
  | [] => none
  | first :: rest => some (x.field.key, fieldValue x.field first rest)

theorem Finding.entry?_eq_some {x : Finding} {s : String} {v : Value}
    (h : x.entry? = some (s, v)) : x.nodes ≠ [] ∧ s = x.field.key := by
  unfold entry? at h
  split at h
  · cases h
  · next first rest rows =>
    obtain ⟨rfl, -⟩ := Prod.mk.inj (Option.some.inj h)
    exact ⟨by rw [rows]; exact List.cons_ne_nil _ _, rfl⟩

theorem collected_eq_update (xs : List Finding) (found : Entries) :
    collected xs found = Assoc.update found (Value.ofNames (xs.filterMap Finding.entry?)) := by
  induction xs generalizing found with
  | nil => rfl
  | cons x xs ih =>
    refine (ih (collect x.field x.nodes found)).trans ?_
    cases rows : x.nodes with
    | nil => rw [List.filterMap_cons_none (by rw [Finding.entry?, rows])]; rfl
    | cons first rest => rw [List.filterMap_cons_some (by rw [Finding.entry?, rows])]; rfl

/-- The findings are a map of what each of them puts into it. -/
theorem collected_eq_ofNames (xs : List Finding) :
    collected xs [] = Value.ofNames (Assoc.ofEntries (xs.filterMap Finding.entry?)) :=
  (collected_eq_update xs []).trans (Value.ofEntries_ofNames _)

/-- A property that no finding with rows has is none of those put into a map. -/
theorem notMem_keys_of_ne {xs : List Finding} {s : String}
    (h : ∀ x ∈ xs, x.nodes ≠ [] → x.field.key ≠ s) :
    s ∉ Assoc.keys (xs.filterMap Finding.entry?) := by
  intro mem
  obtain ⟨⟨_, v⟩, he, rfl⟩ := List.mem_map.mp mem
  obtain ⟨x, hx, put⟩ := List.mem_filterMap.mp he
  obtain ⟨rows, same⟩ := Finding.entry?_eq_some put
  exact h x hx rows same.symm

/-- **Findings are merged** by an update with all of them. -/
theorem merged_update (properties : Entries) (xs : List Finding) :
    Merged properties xs (Assoc.update properties (collected xs [])) := by
  rw [collected_eq_ofNames]
  refine ⟨fun k other => ?_, ?_⟩
  · refine Value.lookup_update_of_ne ?_
    rintro s mem rfl
    rw [Assoc.mem_keys_ofEntries] at mem
    exact notMem_keys_of_ne (fun x hx rows same => other x hx rows (same ▸ rfl)) mem
  · rintro before x after rfl rows last edge related many role
    have distinct := Assoc.nodup_keys_ofEntries ((before ++ x :: after).filterMap Finding.entry?)
    obtain ⟨first, rest, nodes⟩ := List.exists_cons_of_ne_nil rows
    have put : x.entry? = some (x.field.key, fieldValue x.field first rest) := by
      rw [Finding.entry?, nodes]
    have later : (after.filterMap Finding.entry?).reverse.lookup x.field.key = none := by
      rw [Assoc.lookup_eq_none_iff, Assoc.keys, List.map_reverse, List.mem_reverse]
      exact notMem_keys_of_ne last
    rw [Value.lookup_update_text, Assoc.lookup_reverse_of_nodup distinct, Assoc.lookup_ofEntries,
      List.filterMap_append, List.filterMap_cons_some put, List.reverse_append, List.reverse_cons,
      List.append_assoc, List.lookup_append, later, List.singleton_append, List.lookup_cons,
      beq_self_eq_true, nodes, fieldValue, role]
    cases many <;> rfl

/-! ### Merging -/

section Merging

variable {c : Catalog} {t : EntityRef} {d : Descriptor} {properties : Value} {entries : Entries}
  {uuid : Value} {lookup : Lookup σ} {w : World σ}

/-- A relationship field has a statement if its type can be described. -/
theorem exists_statement {f : FieldDescriptor} (hf : f ∈ d.relationshipFields)
    (accepted : ∀ edge related many, f.role = .relationship edge related many →
      ∃ r, c.describeRef related = .ok r) : ∃ text, statement c d f = .ok text := by
  have isRelationship : f.isRelationship = true := (List.mem_filter.mp hf).2
  unfold FieldDescriptor.isRelationship at isRelationship
  split at isRelationship
  · next edge related many role =>
    obtain ⟨r, described⟩ := accepted edge related many role
    refine ⟨Wording.lookup d.label.text edge r.label.text, ?_⟩
    rw [statement, role]
    dsimp only
    rw [described]
    exact Wording.statementFor_eq ..
  · cases isRelationship

variable (described : c.describeRef t = .ok d) (mapping : properties.mapping? = some entries)

include mapping

theorem toEntries_of_mapping : properties.toEntries = .ok entries := by
  unfold Value.toEntries
  rw [mapping]

include described

/-- Without an identifier, or without relationship fields, nothing is run. -/
theorem perform_withRelated_spared
    (spared : ¬ Identified entries ∨ d.relationshipFields = []) :
    (withRelated c lookup (.type (.entity t)) properties).perform w = (.ok entries, w) := by
  rw [withRelated, toEntries_of_mapping mapping, perform_bind_ok (perform_ofOutcome _ w)]
  dsimp only
  split
  · rfl
  · next present =>
    have described : c.describe (.type (.entity t)) = .ok d := described
    rw [described, perform_bind_ok (perform_ofOutcome _ w), if_pos ?_]
    · rfl
    · rcases spared with anonymous | none
      · refine absurd ?_ anonymous
        cases found : entries.lookup (.text identifierKey) with
        | none => rw [found] at present; exact absurd rfl present
        | some uuid =>
          rw [found, Option.getD_some, Bool.not_eq_true] at present
          exact ⟨uuid, found, present⟩
      · rw [none]
        rfl

variable (known : entries.lookup (.text identifierKey) = some uuid) (present : uuid.isNull = false)
  (related : d.relationshipFields ≠ [])

include known present related

/-- Otherwise all relationship fields are looked up. -/
theorem perform_withRelated :
    (withRelated c lookup (.type (.entity t)) properties).perform w =
      (do let found ← fetchFields c lookup d uuid d.relationshipFields []
          noteFound t.name uuid found
          pure (Assoc.update entries found) : Action σ Entries).perform w := by
  have again : c.describe (.type (.entity t)) = .ok d := described
  have isType : (Value.type (.entity t)).entityRef = .ok t := rfl
  rw [withRelated, toEntries_of_mapping mapping, perform_bind_ok (perform_ofOutcome _ w)]
  dsimp only
  rw [known, Option.getD_some, if_neg (by rw [present]; exact Bool.false_ne_true), again,
    perform_bind_ok (perform_ofOutcome _ w), if_neg (by simpa using related), fetch, isType,
    bind_assoc, perform_bind_ok (perform_ofOutcome _ w), described, bind_assoc,
    perform_bind_ok (perform_ofOutcome _ w)]
  simp only [bind_assoc, pure_bind]

theorem Follows.perform_withRelated {xs : List Finding} {v : World σ}
    (h : Follows c d lookup uuid w xs v) (all : xs.map Finding.field = d.relationshipFields) :
    ∃ log, (withRelated c lookup (.type (.entity t)) properties).perform w =
      (.ok (Assoc.update entries (collected xs [])), { v with log }) := by
  have looked : (fetchFields c lookup d uuid d.relationshipFields []).perform w =
      (.ok (collected xs []), v) := by
    rw [← all, ← List.append_nil (xs.map _)]
    exact h.perform_fetchFields
  rw [Related.perform_withRelated described mapping known present related, perform_bind_ok looked]
  unfold noteFound
  split
  · exact ⟨v.log, rfl⟩
  · exact ⟨_, rfl⟩

theorem Stops.perform_withRelated {xs : List Finding} {f : FieldDescriptor}
    {rest : List FieldDescriptor} {v u : World σ} {e : Failure}
    (stops : Stops c d lookup uuid f v e u) (follows : Follows c d lookup uuid w xs v)
    (upTo : d.relationshipFields = xs.map Finding.field ++ f :: rest) :
    (withRelated c lookup (.type (.entity t)) properties).perform w = (.error e, u) := by
  have looked :
      (fetchFields c lookup d uuid d.relationshipFields []).perform w = (.error e, u) := by
    rw [upTo]
    exact follows.perform_fetchFields.trans stops.perform_fetchFields
  rw [Related.perform_withRelated described mapping known present related]
  exact perform_bind_error looked

end Merging

/-- **Related nodes are merged into properties.** Take a type that is described, and so are the
types its relationship fields lead to, any property map, and any way to run statements. Without an
identifier that is not null, or without relationship fields, nothing is run, and the map stays as it
is. Otherwise the fields are looked up in the order of their declarations, each by one statement.
If all lookups follow one another, the result holds what was found and keeps all else, and nothing
but a note follows the last of them. If one breaks – its statement fails, or one of its rows holds
neither null nor a node – its failure is the outcome, in the world that this statement has left. And
the one or the other is the case. -/
theorem withRelated_merges {c : Catalog} {t : EntityRef} {d : Descriptor}
    (described : c.describeRef t = .ok d)
    (accepted : ∀ f ∈ d.relationshipFields, ∀ edge related many,
      f.role = .relationship edge related many → ∃ r, c.describeRef related = .ok r)
    {properties : Value} {entries : Entries} (mapping : properties.mapping? = some entries)
    (lookup : Lookup σ) (w : World σ) :
    let run := (withRelated c lookup (.type (.entity t)) properties).perform w
    (¬ Identified entries ∨ d.relationshipFields = [] → run = (.ok entries, w)) ∧
      ∀ uuid, entries.lookup (.text identifierKey) = some uuid → uuid.isNull = false →
        d.relationshipFields ≠ [] →
        (∀ xs v, Follows c d lookup uuid w xs v → xs.map Finding.field = d.relationshipFields →
          ∃ merged log, run = (.ok merged, { v with log }) ∧ Merged entries xs merged) ∧
        (∀ xs f rest v e u, Follows c d lookup uuid w xs v →
          d.relationshipFields = xs.map Finding.field ++ f :: rest →
          Breaks c d lookup uuid f v e u → run = (.error e, u)) ∧
        ((∃ xs v, Follows c d lookup uuid w xs v ∧ xs.map Finding.field = d.relationshipFields) ∨
          ∃ xs f rest v e u, Follows c d lookup uuid w xs v ∧
            d.relationshipFields = xs.map Finding.field ++ f :: rest ∧
            Breaks c d lookup uuid f v e u) := by
  intro run
  refine ⟨perform_withRelated_spared described mapping,
    fun uuid known present related => ⟨?_, ?_, ?_⟩⟩
  · intro xs v follows all
    obtain ⟨log, done⟩ := follows.perform_withRelated described mapping known present related all
    exact ⟨_, log, done, merged_update entries xs⟩
  · intro xs f rest v e u follows upTo breaks
    exact (Stops.broken breaks).perform_withRelated described mapping known present related follows
      upTo
  · exact follows_or_breaks (fun f hf => exists_statement hf (accepted f hf)) w

end Related

namespace Example

/-- What is known about the friends of users. -/
def friendsField : FieldDescriptor :=
  { name := "friends", key := "friends", frozen := false
    role := .relationship ⟨⟨"KNOWS", isIdentifier_knows⟩, .outgoing⟩ user.ref true }

/-- The result that holds a friend and a row without one. -/
def twoFriends : Result :=
  { records := [⟨[("rNode", .node [(.text "Uuid", .text "u2")])]⟩, ⟨[("rNode", .null)]⟩] }

/-- What the rows of this result give. -/
def friendNodes : List Value := [.map [(.text "Uuid", .text "u2")], .null]

/-- The properties of a user whose node holds something where friends belong. -/
def strayUser : Entries := [(.text "Uuid", .text "u1"), (.text "friends", .text "none")]

end Example

/-- The friends of a user replace what the node holds under their property, and its identifier
stays. -/
theorem Related.withRelated_merges_users : ∃ merged v,
    (withRelated Example.users Client.execute Example.userType (.map Example.strayUser)).perform
      (Example.connected [Example.twoFriends]) = (.ok merged, v) ∧
    merged.lookup (.text "friends") = some (.list Example.friendNodes) ∧
    merged.lookup (.text "Uuid") = some (.text "u1") := by
  obtain ⟨d, described, fields⟩ : ∃ d, Example.users.describeRef Example.user.ref = .ok d ∧
      d.relationshipFields = [Example.friendsField] := ⟨_, rfl, rfl⟩
  have accepted : ∀ f ∈ d.relationshipFields, ∀ edge related many,
      f.role = .relationship edge related many →
        ∃ r, Example.users.describeRef related = .ok r := by
    rw [fields]
    rintro f mem edge related many role
    obtain rfl := List.mem_singleton.mp mem
    cases role
    exact ⟨d, described⟩
  have mem : Example.friendsField ∈ d.relationshipFields := by simp [fields]
  obtain ⟨text, stated⟩ := exists_statement mem (accepted _ mem)
  have mapping : (Value.map Example.strayUser).mapping? = some Example.strayUser := rfl
  obtain ⟨-, looked⟩ := withRelated_merges described accepted mapping Client.execute
    (Example.connected [Example.twoFriends])
  obtain ⟨found, -, -⟩ := looked (.text "u1") rfl rfl (by simp [fields])
  let x : Finding := ⟨Example.friendsField, text, Example.twoFriends, Example.friendNodes⟩
  have rows : List.Forall₂ Record.Gives Example.twoFriends.records Example.friendNodes :=
    .cons (@Record.Gives.node _ [(.text "Uuid", .text "u2")] rfl) (.cons (.null rfl) .nil)
  obtain ⟨merged, log, done, merges⟩ :=
    found [x] _ (.cons stated rfl rows (.nil _)) fields.symm
  refine ⟨merged, _, done, ?_, ?_⟩
  · exact merges.holds [] x [] rfl (List.cons_ne_nil _ _) (by simp) _ _ _ rfl
  · refine (merges.kept (.text "Uuid") fun y mem _ => ?_).trans rfl
    obtain rfl := List.mem_singleton.mp mem
    simp [x, Example.friendsField]

end GraphMapper
