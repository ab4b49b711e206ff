import GraphMapper.Proofs.Answers
import GraphMapper.Proofs.Related.Rows
import GraphMapper.Proofs.Validation.Place

/-!
# What else a node holds

A node may hold properties that its type does not know, and it may hold something under the name of
a field that is not stored. When it is read, its properties and what it is related to are put into
one map, an entity is made of this map, and whatever goes by the name of a field is taken for it. So
a field that is loaded through edges, or is not mapped at all, may come from the node after all
(`GraphMapper.Client.not_read_depends_on_stored_fields`).

Nothing else gets in. Two property maps are **known to be alike** (`GraphMapper.Catalog.KnownAlike`)
if they hold the same under every name that a value for a field is looked for under, and the same
identifier. Since instances depend on nothing but what is given for fields
(`GraphMapper.Catalog.construct_congr`), and lookups on the identifier alone, reading the one or the
other is one and the same action (`GraphMapper.Client.read_congr`), which is guided by the answers
it gets (`GraphMapper.Client.guided_read`). And where a node holds nothing for a field, the entity
holds what was found for it, or its default (`GraphMapper.Client.Reads.holdsFound`).
-/

namespace GraphMapper

open GraphMapper.Action
open GraphMapper.Related (Finding Follows Merged collected)

/-! ### What is given for a field -/

namespace Value

variable {k v : Value} {s : String} {entries entries' : Entries}

theorem lookup_text_set_of_ne (h : k ≠ .text s) :
    (Assoc.set k v entries).lookup (.text s) = entries.lookup (.text s) := by
  have miss : (Value.text s == k) = false :=
    Bool.eq_false_iff.mpr fun same => h (eq_text_of_text_beq same)
  induction entries with
  | nil => rw [Assoc.set_nil, List.lookup_cons, miss]
  | cons e rest ih =>
    rw [Assoc.set]
    split
    · next same =>
      have other : (Value.text s == e.1) = false := by
        refine Bool.eq_false_iff.mpr fun found => ?_
        rw [eq_text_of_text_beq found, miss] at same
        exact Bool.false_ne_true same
      rw [List.lookup_cons, List.lookup_cons, other]
    · rw [List.lookup_cons, List.lookup_cons, ih]

/-- Maps that hold the same under a text do so after the same update. -/
theorem lookup_text_update_congr (h : entries.lookup (.text s) = entries'.lookup (.text s))
    (found : Entries) :
    (Assoc.update entries found).lookup (.text s) =
      (Assoc.update entries' found).lookup (.text s) := by
  induction found generalizing entries entries' with
  | nil => exact h
  | cons e rest ih =>
    rw [Assoc.update_cons, Assoc.update_cons]
    refine ih ?_
    by_cases same : e.1 = .text s
    · rw [same, lookup_set_text_self, lookup_set_text_self]
    · rw [lookup_text_set_of_ne same, lookup_text_set_of_ne same, h]

end Value

namespace Field

variable {f : Field} {p q : Entries}

/-- Two maps that **hold the same for a field**: under each name that a value for it is looked for
under. -/
def SameIn (f : Field) (p q : Entries) : Prop :=
  ∀ n ∈ f.inputNames, p.lookup (.text n) = q.lookup (.text n)

/-- A map that holds nothing for a field, as an empty map does. -/
def NothingIn (f : Field) (p : Entries) : Prop := f.SameIn p []

theorem SameIn.input?_eq (h : f.SameIn p q) : f.input? p = f.input? q := by
  have each {names : List String} (h : ∀ n ∈ names, p.lookup (.text n) = q.lookup (.text n)) :
      (names.findSome? fun n => (p.lookup (.text n)).map fun v => (n, v)) =
        names.findSome? fun n => (q.lookup (.text n)).map fun v => (n, v) := by
    induction names with
    | nil => rfl
    | cons n rest ih =>
      obtain ⟨first, others⟩ := List.forall_mem_cons.mp h
      rw [List.findSome?_cons, List.findSome?_cons, first, ih others]
  exact each h

theorem SameIn.update (h : f.SameIn p q) (found : Entries) :
    f.SameIn (Assoc.update p found) (Assoc.update q found) :=
  fun n hn => Value.lookup_text_update_congr (h n hn) found

/-- A property that goes by no name of a field makes no difference to it. -/
theorem sameIn_append {s : String} (strange : s ∉ f.inputNames) (v : Value) (p : Entries) :
    f.SameIn p (p ++ [(.text s, v)]) := by
  intro n hn
  have miss : (Value.text n == Value.text s) = false := by
    refine Bool.eq_false_iff.mpr fun same => strange ?_
    rwa [← Value.text.inj (Value.eq_text_of_beq same)]
  rw [List.lookup_append, List.lookup_cons, miss, List.lookup_nil, Option.or_none]

end Field

/-! ### Nodes that are read alike -/

namespace Catalog

/-- Two property maps that hold the same for the stored fields of a type. -/
def StoredAlike (c : Catalog) (t : EntityRef) (p q : Entries) : Prop :=
  ∀ f ∈ c.storedFields t, f.SameIn p q

/-- **Two property maps that are known to be alike**: they hold the same for all fields of a type,
and the same identifier. -/
structure KnownAlike (c : Catalog) (t : EntityRef) (p q : Entries) : Prop where
  /-- They hold the same for the stored fields. -/
  stored : c.StoredAlike t p q
  /-- They hold the same for the fields that are not stored. -/
  unstored : ∀ f ∈ c.fieldsOf t, c.isStored f = false → f.SameIn p q
  /-- They hold the same identifier, which decides on lookups. -/
  identifier : p.lookup (.text identifierKey) = q.lookup (.text identifierKey)

theorem KnownAlike.sameIn {c : Catalog} {t : EntityRef} {p q : Entries} (h : c.KnownAlike t p q)
    {f : Field} (hf : f ∈ c.fieldsOf t) : f.SameIn p q := by
  cases stored : c.isStored f with
  | true => exact h.stored f (mem_storedFields.mpr ⟨hf, stored⟩)
  | false => exact h.unstored f hf stored

end Catalog

namespace Record

/-- Two rows that hold the same, or two nodes whose properties are alike. -/
inductive Alike (alike : Entries → Entries → Prop) (r r' : Record) : Prop where
  /-- They hold the same. -/
  | same (h : r.first = r'.first)
  /-- They hold two nodes. -/
  | nodes {p q : Entries} (gives : r.Gives (.map p)) (gives' : r'.Gives (.map q)) (h : alike p q)

theorem Gives.nodeProperties {r : Record} {p : Entries} (h : r.Gives (.map p)) :
    r.first.nodeProperties = .ok (some p) := by
  obtain ⟨properties?, given, made⟩ := Outcome.bind_eq_ok.mp (Related.nodeOf_eq_ok_iff.mpr h)
  cases properties? with
  | none => cases made
  | some properties =>
    obtain rfl := Value.map.inj (Except.ok.inj made)
    exact given

end Record

namespace Client

variable {σ : Type} {c : Catalog} {t : EntityRef} {p q : Entries} {r r' : Record}
  {result result' : Result} {request : Request}

theorem entityOf_congr (h : ∀ f ∈ c.fieldsOf t, f.SameIn p q) :
    (entityOf c t (some p) : Action σ Value) = entityOf c t (some q) := by
  have made (now : Float) : c.mapNode now t (some p) = c.mapNode now t (some q) :=
    Catalog.construct_congr fun f hf => (h f hf).input?_eq
  unfold entityOf
  simp only [made]

variable [Database σ]

/-- Nodes that are known to be alike are completed and made into entities in the same way. -/
theorem entityWithRelated_congr (h : c.KnownAlike t p q) :
    (entityWithRelated c t (.map p) : Action σ Value) = entityWithRelated c t (.map q) := by
  have mapping (p : Entries) :
      (ofOutcome (Value.map p).toEntries : Action σ Entries) = pure p := rfl
  rw [entityWithRelated, entityWithRelated, Related.withRelated, Related.withRelated, mapping,
    mapping, pure_bind, pure_bind, h.identifier]
  dsimp only
  split
  · rw [pure_bind, pure_bind]
    exact entityOf_congr fun f hf => h.sameIn hf
  · simp only [bind_assoc]
    refine bind_congr fun d => ?_
    split
    · rw [pure_bind, pure_bind]
      exact entityOf_congr fun f hf => h.sameIn hf
    · -- Whatever is found, it is put into both.
      simp only [bind_assoc, pure_bind]
      exact bind_congr fun found => entityOf_congr fun f hf => (h.sameIn hf).update found

theorem readRow_congr (h : r.Alike (c.KnownAlike t) r') :
    (do entityWithRelated c t (← propertiesOf r.first) : Action σ Value) =
      (do entityWithRelated c t (← propertiesOf r'.first)) := by
  cases h with
  | same h => rw [h]
  | nodes gives gives' h =>
    rw [propertiesOf_of_gives gives, propertiesOf_of_gives gives', pure_bind, pure_bind,
      entityWithRelated_congr h]

theorem readNodesWithRelated_congr {records records' : List Record}
    (h : List.Forall₂ (Record.Alike (c.KnownAlike t)) records records') :
    (readNodesWithRelated c t records : Action σ (List Value)) =
      readNodesWithRelated c t records' := by
  induction h with
  | nil => rfl
  | cons first _ ih =>
    rw [readNodesWithRelated, readNodesWithRelated, ← bind_assoc, ← bind_assoc, readRow_congr first,
      ih]

theorem readFirst_congr
    (h : List.Forall₂ (Record.Alike (c.KnownAlike t)) result.records result'.records) :
    (do match ← ofOutcome result.firstValue.nodeProperties with
        | none => pure .null
        | some properties => entityWithRelated c t (.map properties) : Action σ Value) =
      (do match ← ofOutcome result'.firstValue.nodeProperties with
          | none => pure .null
          | some properties => entityWithRelated c t (.map properties)) := by
  unfold Result.firstValue
  generalize result.records = records, result'.records = records' at h ⊢
  cases h with
  | nil => rfl
  | cons first _ =>
    dsimp only
    cases first with
    | same first => rw [first]
    | nodes gives gives' alike =>
      rw [gives.nodeProperties, gives'.nodeProperties]
      exact entityWithRelated_congr alike

/-- **Results with alike rows are read in the same way.** -/
theorem read_congr
    (reads : request.reading = .nodeWithRelated t ∨ request.reading = .nodesWithRelated t)
    (h : List.Forall₂ (Record.Alike (c.KnownAlike t)) result.records result'.records) :
    (read c request result : Action σ Value) = read c request result' := by
  unfold read
  rcases reads with reads | reads <;> rw [reads]
  · exact readFirst_congr h
  · dsimp only
    rw [readNodesWithRelated_congr h]

end Client

/-! ### Fields for which a node holds nothing -/

namespace Related

variable {properties merged merged' : Entries} {xs : List Finding} {c : Catalog} {n : Nesting}
  {now : Float} {f : Field} {v : Value}

/-- Two maps in which findings of relationship fields are merged hold the same under a text. -/
theorem Merged.lookup_text_eq (h : Merged properties xs merged) (h' : Merged properties xs merged')
    (related : ∀ x ∈ xs, x.field.isRelationship = true) (s : String) :
    merged.lookup (.text s) = merged'.lookup (.text s) := by
  cases last : xs.reverse.find? fun x => !x.nodes.isEmpty && x.field.key == s with
  | none =>
    have other : ∀ x ∈ xs, x.nodes ≠ [] → Value.text s ≠ .text x.field.key := by
      intro x hx rows same
      have missed := List.find?_eq_none.mp last x (List.mem_reverse.mpr hx)
      simp [rows, Value.text.inj same] at missed
    rw [h.kept _ other, h'.kept _ other]
  | some x =>
    obtain ⟨found, later, before, split, missed⟩ := List.find?_eq_some_iff_append.mp last
    obtain ⟨rows, rfl⟩ : x.nodes ≠ [] ∧ x.field.key = s := by simpa using found
    have upTo : xs = before.reverse ++ x :: later.reverse := by
      rw [← List.reverse_reverse xs, split]
      simp
    have others : ∀ y ∈ later.reverse, y.nodes ≠ [] → y.field.key ≠ x.field.key := by
      intro y hy rows
      have miss := missed y (List.mem_reverse.mp hy)
      simpa [rows] using miss
    have isRelationship := related x (by simp [upTo])
    unfold FieldDescriptor.isRelationship at isRelationship
    split at isRelationship
    · next edge related many role =>
      rw [h.holds _ x _ upTo rows others _ _ _ role, h'.holds _ x _ upTo rows others _ _ _ role]
    · cases isRelationship

theorem Follows.isRelationship {σ : Type} {d : Descriptor} {lookup : Lookup σ} {uuid : Value}
    {w v : World σ} (h : Follows c d lookup uuid w xs v) :
    ∀ x ∈ xs, x.field.isRelationship = true := by
  induction h with
  | nil => exact List.forall_mem_nil _
  | cons stated _ _ _ ih =>
    obtain ⟨edge, related, many, r, role, -, -⟩ := statement_eq_ok stated
    exact List.forall_mem_cons.mpr ⟨by rw [FieldDescriptor.isRelationship, role], ih⟩

/-- What was found, put into an empty map, is what was found. -/
theorem update_collected (xs : List Finding) :
    Assoc.update [] (collected xs []) = collected xs [] := by
  rw [collected_eq_ofNames]
  exact (Value.ofEntries_ofNames _).trans
    (congrArg Value.ofNames (Assoc.ofEntries_of_nodup (Assoc.nodup_keys_ofEntries _)))

/-- **A field holds what was found**, and nothing else. -/
structure HoldsFound (c : Catalog) (n : Nesting) (now : Float) (xs : List Finding) (f : Field)
    (v : Value) : Prop where
  /-- It holds what is made of what was found, as if that were all there is. -/
  made : ∃ a, f.made (c.acceptAt now n) now (collected xs []) = .ok a ∧ a.value = v
  /-- If nothing was found under a name of it, it holds its default. -/
  filled : (∀ x ∈ xs, x.nodes ≠ [] → x.field.key ∉ f.inputNames) → f.filled now = .ok v

theorem HoldsFound.of_made {a : Accepted}
    (made : f.made (c.acceptAt now n) now (collected xs []) = .ok a) :
    HoldsFound c n now xs f a.value where
  made := ⟨a, made, rfl⟩
  filled := by
    intro others
    have merges : Merged [] xs (collected xs []) := update_collected xs ▸ merged_update [] xs
    have nothing : f.NothingIn (collected xs []) := fun name hn =>
      merges.kept _ fun x hx rows same => others x hx rows (Value.text.inj same ▸ hn)
    have empty : f.input? [] = none := by simp [Field.input?]
    rw [Field.made, nothing.input?_eq, empty] at made
    obtain ⟨v, filled, rfl⟩ := Outcome.map_eq_ok.mp made
    exact filled

end Related

namespace Client

variable {σ : Type} [Database σ] {c : Catalog} {t : EntityRef} {d : Descriptor} {now : Float}
  {w v : World σ} {row : Row} {rows : List Row} {request : Request} {result : Result}

/-- **The entity made of a row**, field by field: where the node holds nothing for a field, the
entity holds what was found. -/
def Row.HoldsFound (c : Catalog) (t : EntityRef) (now : Float) (row : Row) : Prop :=
  ∃ n attributes, c.innerNesting? t = some n ∧ row.entity = .entity (c.resolve t) attributes ∧
    List.Forall₂ (fun f a => f.name = a.1 ∧
      (f.NothingIn row.properties → Related.HoldsFound c n now row.findings f a.2))
      (c.fieldsOf t) attributes

theorem Reads.holdsFound (h : Reads c t d now w row v) : row.HoldsFound c t now := by
  obtain ⟨u, log, follows, -⟩ := h.follows
  obtain ⟨merged, merges, mapped⟩ := h.mapped
  obtain ⟨-, -, n, inner, attributes, made, entity⟩ := Catalog.construct_eq_ok_iff.mp mapped
  refine ⟨n, Catalog.held attributes, inner, entity.symm, ?_⟩
  rw [Catalog.held, List.forall₂_map_right_iff]
  refine (Catalog.attributesOf_eq_ok_iff.mp made).imp ?_
  rintro f ⟨name, a⟩ ⟨made, rfl⟩
  refine ⟨rfl, fun nothing => .of_made ?_⟩
  rw [Catalog.made_readingAt] at made
  rw [← made]
  refine Catalog.made_congr (Field.SameIn.input?_eq fun name hn => ?_) fun _ _ _ => rfl
  rw [merges.lookup_text_eq (Related.merged_update _ _) follows.isRelationship name,
    Value.lookup_text_update_congr (nothing name hn), Related.update_collected]

theorem ReadsAll.holdsFound (h : ReadsAll c t d now w rows v) :
    ∀ row ∈ rows, row.HoldsFound c t now := by
  induction h with
  | nil => exact List.forall_mem_nil _
  | cons first _ ih => exact List.forall_mem_cons.mpr ⟨first.holdsFound, ih⟩

/-! ### Operations that read nodes -/

/-- **A value that rows were read to**: the list of their entities, or the entity of a single row,
null if there is none. -/
inductive Yields : List Row → Value → Prop where
  /-- A list was read. -/
  | list (rows : List Row) : Yields rows (.list (rows.map Row.entity))
  /-- A node was read. -/
  | node (row : Row) : Yields [row] row.entity
  /-- There was no node. -/
  | nothing : Yields [] .null

/-- Where one node is wanted, the first row is read, if it holds a node. -/
theorem exists_rows_of_readFirst (described : c.describeRef t = .ok d)
    (reading : request.reading = .nodeWithRelated t) {value : Value}
    (done : (read c request result).perform w = (.ok value, v)) :
    ∃ rows, Yields rows value ∧ rows.map Row.record <+: result.records ∧
      ReadsAll c t d w.now w rows v := by
  rw [read, reading] at done
  dsimp only at done
  unfold Result.firstValue at done
  cases first : result.records with
  | nil =>
    rw [first] at done
    cases done
    exact ⟨[], .nothing, List.nil_prefix, .nil w⟩
  | cons record rest =>
    rw [first] at done
    dsimp only at done
    cases given : record.first.nodeProperties with
    | error e =>
      rw [given] at done
      cases done
    | ok properties? =>
      rw [given, perform_bind_ok (perform_ofOutcome _ w)] at done
      cases properties? with
      | none =>
        cases done
        exact ⟨[], .nothing, List.nil_prefix, .nil w⟩
      | some properties =>
        have gives : record.Gives (.map properties) := by
          rw [← Related.nodeOf_eq_ok_iff, Related.nodeOf, given]
          rfl
        have same : (do entityWithRelated c t (← propertiesOf record.first) : Action σ Value) =
            entityWithRelated c t (.map properties) := by
          rw [propertiesOf_of_gives gives, pure_bind]
        dsimp only at done
        rw [← same] at done
        rcases reads_or_fails described record w with ⟨row, u, rfl, first, made⟩ | ⟨e, u, -, made⟩
        · rw [made] at done
          cases done
          exact ⟨[row], .node row, List.prefix_append [row.record] rest, .cons first (.nil _)⟩
        · rw [made] at done
          cases done

/-- Where a list is wanted, all rows are read. -/
theorem exists_rows_of_readNodes (described : c.describeRef t = .ok d)
    (reading : request.reading = .nodesWithRelated t) {value : Value}
    (done : (read c request result).perform w = (.ok value, v)) :
    ∃ rows, Yields rows value ∧ rows.map Row.record = result.records ∧
      ReadsAll c t d w.now w rows v := by
  rw [read, reading] at done
  dsimp only at done
  rcases readsAll_or_fails described result.records w with
    ⟨rows, u, chain, records, made⟩ | ⟨_, _, _, _, e, u, -, -, -, made⟩
  · rw [perform_bind_ok made] at done
    cases done
    exact ⟨rows, .list rows, records, chain⟩
  · rw [perform_bind_error made] at done
    cases done

/-- **A result is read row by row**, from the first on. -/
theorem exists_rows_of_read (described : c.describeRef t = .ok d)
    (reads : request.reading = .nodeWithRelated t ∨ request.reading = .nodesWithRelated t)
    {value : Value} (done : (read c request result).perform w = (.ok value, v)) :
    ∃ rows, Yields rows value ∧ rows.map Row.record <+: result.records ∧
      ReadsAll c t d w.now w rows v := by
  rcases reads with reading | reading
  · exact exists_rows_of_readFirst described reading done
  · obtain ⟨rows, yields, records, chain⟩ := exists_rows_of_readNodes described reading done
    exact ⟨rows, yields, records ▸ List.prefix_refl _, chain⟩

variable {operation : Operation}

omit [Database σ] in
/-- The request to read nodes does not depend on the time, nor on what identifier is next. -/
theorem request_eq_of_reads {type : Value} (reads : operation.readType? = some type)
    (now now' : Float) (identifier identifier' : String) :
    operation.request c now identifier = operation.request c now' identifier' := by
  cases operation with
  | getByProperty | getByProperties | getAll | getByUuid => rfl
  | _ => cases reads

/-- Once the statement of a read has been answered, what is left is to read its result. -/
theorem perform_of_answered {type : Value} (reads : operation.readType? = some type)
    (requested : operation.request c w.now w.nextIdentifier = .ok request)
    (ran : (execute request.statement request.parameters).perform w = (.ok result, v)) :
    (perform c operation).perform w = (read c request result).perform v := by
  rw [perform, perform_bind_ok (perform_prepare_of_read reads requested), send, perform_bind_ok ran]

/-- **What else a node holds gets into no field.** Take a read of a type, and a world in which the
statement of its request is answered.

Let it be answered in another world as well, with rows that hold nodes known to be alike: they hold
the same for the fields of the type, stored or not, and the same identifier, whatever else they
hold. If the client is the same afterwards, and gets the same answers to its lookups as far as both
go, the read has the same outcome in both worlds, and makes the same exchanges.

And if it returns, its value was read from rows: where a node holds nothing for a field, the entity
holds what the lookups of this row found for it, and its default if they found nothing. -/
theorem read_depends_on_fields (reads : operation.readType? = some (.type (.entity t)))
    (described : c.describeRef t = .ok d)
    (requested : operation.request c w.now w.nextIdentifier = .ok request)
    (ran : (execute request.statement request.parameters).perform w = (.ok result, v)) :
    (∀ (w' v' : World σ) (result' : Result),
      (execute request.statement request.parameters).perform w' = (.ok result', v') →
      v.SameButAnswers v' →
      List.Forall₂ (Record.Alike (c.KnownAlike t)) result.records result'.records →
      Comparable ((read c request result).answers v) ((read c request result').answers v') →
      ((perform c operation).perform w).1 = ((perform c operation).perform w').1 ∧
        (read c request result).exchanges v = (read c request result').exchanges v') ∧
    ∀ value u, (perform c operation).perform w = (.ok value, u) →
      ∃ rows, Yields rows value ∧ rows.map Row.record <+: result.records ∧
        ReadsAll c t d v.now v rows u ∧ ∀ row ∈ rows, row.HoldsFound c t v.now := by
  obtain ⟨t', -, same, -, reading, -⟩ := reading_of_request reads requested
  obtain rfl : t = t' := by cases same; rfl
  refine ⟨fun w' v' result' ran' client rows answers => ?_, fun value u done => ?_⟩
  · have requested' : operation.request c w'.now w'.nextIdentifier = .ok request :=
      (request_eq_of_reads reads _ _ _ _).trans requested
    rw [perform_of_answered reads requested ran, perform_of_answered reads requested' ran']
    rw [← read_congr reading rows] at answers ⊢
    obtain ⟨outcome, asked, -⟩ := (guided_read reading result).same v v' client answers
    exact ⟨outcome, asked⟩
  · rw [perform_of_answered reads requested ran] at done
    obtain ⟨rows, yields, records, chain⟩ := exists_rows_of_read described reading done
    exact ⟨rows, yields, records, chain, chain.holdsFound⟩

end Client

namespace Example

/-- The result that holds a user with a property that users do not know. -/
def shodUser : Result :=
  { records := [⟨[("n", .node [(.text "Uuid", .text "u1"), (.text "Email", .text "a@x"),
      (.text "Shoe", .int 42)])]⟩] }

/-- The request to read users by their address. -/
def usersByAddress : Request :=
  { statement := "MATCH (n:User{Email:$Email,IsDeleted:false}) RETURN n"
    parameters := .map [(.text "Email", .text "a@x")]
    reading := .nodesWithRelated user.ref }

/-- Guests have a nickname, which is not stored. -/
def guest : EntityType :=
  { number := 0
    name := "Guest"
    label := .text "Guest"
    fields := baseFields ++
      [{ name := "nickname", type := .optional (.plain .text), default := .value .null,
         marks := [.notMapped] }] }

/-- The catalog of guests. -/
def guests : Catalog := ⟨[guest]⟩

/-- Reading all guests. -/
def readGuests : Operation := .getAll (.type (.entity guest.ref))

/-- The request to read all guests. -/
def allGuests : Request :=
  { statement := "MATCH (n:Guest{IsDeleted:false}) RETURN n"
    parameters := .map []
    reading := .nodesWithRelated guest.ref }

/-- The result that holds a guest with some more properties. -/
def guestWith (more : Entries) : Result :=
  { records := [⟨[("n", .node ((.text "Uuid", .text "g1") :: more))]⟩] }

/-- Whether the first of some entities has no nickname. -/
def isNameless : Except Failure Value → Bool
  | .ok (.list (first :: _)) => (first.attr "nickname").isNull
  | _ => false

/-- A connected client once the statement of a request has been answered, with the first of some
results. -/
def answered (request : Request) (results : List Result) : World Scripted :=
  ((Client.execute request.statement request.parameters).perform (connected results)).2

end Example

namespace Client

set_option maxRecDepth 2000 in
/-- Of both users the friends are looked up, in a session of their own. -/
theorem answers_users {root : Result} (h : root = Example.oneUser ∨ root = Example.shodUser) :
    (read Example.users Example.usersByAddress root).answers
        (Example.answered Example.usersByAddress [root, Example.oneUser]) =
      [.ok {}, .ok Example.oneUser, .ok {}, .ok {}] := by
  rcases h with rfl | rfl <;> rfl

/-- A user is read as one that wears shoes, with the same friends. -/
theorem read_depends_on_fields_users : ∃ (value : Value) (rows : List Row) (now : Float),
    ((perform Example.users (Example.lookFor "a@x")).perform
        (Example.connected [Example.oneUser, Example.oneUser])).1 = .ok value ∧
      ((perform Example.users (Example.lookFor "a@x")).perform
        (Example.connected [Example.shodUser, Example.oneUser])).1 = .ok value ∧
      Yields rows value ∧ ∀ row ∈ rows, row.HoldsFound Example.users Example.user.ref now := by
  have reads : (Example.lookFor "a@x").readType? = some Example.userType := rfl
  obtain ⟨d, described⟩ : ∃ d, Example.users.describeRef Example.user.ref = .ok d := ⟨_, rfl⟩
  have alike : Example.users.KnownAlike Example.user.ref
      [(.text "Uuid", .text "u1"), (.text "Email", .text "a@x")]
      [(.text "Uuid", .text "u1"), (.text "Email", .text "a@x"), (.text "Shoe", .int 42)] := by
    have strange : ∀ f ∈ Example.users.fieldsOf Example.user.ref, "Shoe" ∉ f.inputNames := by
      decide
    exact ⟨fun f hf => Field.sameIn_append (strange f (Catalog.mem_storedFields.mp hf).1) _ _,
      fun f hf _ => Field.sameIn_append (strange f hf) _ _, rfl⟩
  have rows : List.Forall₂ (Record.Alike (Example.users.KnownAlike Example.user.ref))
      Example.oneUser.records Example.shodUser.records :=
    .cons (.nodes (.node rfl) (.node rfl) alike) .nil
  have answers : Comparable
      ((read Example.users Example.usersByAddress Example.oneUser).answers
        (Example.answered Example.usersByAddress [Example.oneUser, Example.oneUser]))
      ((read Example.users Example.usersByAddress Example.shodUser).answers
        (Example.answered Example.usersByAddress [Example.shodUser, Example.oneUser])) := by
    rw [answers_users (.inl rfl), answers_users (.inr rfl)]
    exact .inl (List.prefix_refl _)
  have ran (root : Result) : (execute Example.usersByAddress.statement
      Example.usersByAddress.parameters).perform (Example.connected [root, Example.oneUser]) =
        (.ok root, Example.answered Example.usersByAddress [root, Example.oneUser]) := rfl
  have requested : (Example.lookFor "a@x").request Example.users
      (Example.connected [Example.oneUser, Example.oneUser]).now
      (Example.connected [Example.oneUser, Example.oneUser]).nextIdentifier =
        .ok Example.usersByAddress := rfl
  obtain ⟨same, holds⟩ := read_depends_on_fields reads described requested (ran Example.oneUser)
  obtain ⟨outcome, -⟩ :=
    same _ _ Example.shodUser (ran Example.shodUser) ⟨_, _, _, rfl⟩ rows answers
  have succeeds : ((perform Example.users (Example.lookFor "a@x")).perform
      (Example.connected [Example.oneUser, Example.oneUser])).1.isOk = true := by decide +kernel
  rcases completed : (perform Example.users (Example.lookFor "a@x")).perform
    (Example.connected [Example.oneUser, Example.oneUser]) with ⟨e | value, u⟩
  · rw [completed] at succeeds
    cases succeeds
  · obtain ⟨rows, yields, -, -, found⟩ := holds value u completed
    rw [completed] at outcome
    exact ⟨value, rows, _, rfl, outcome.symm, yields, found⟩

/-- **It is not enough that nodes hold the same for stored fields**: a guest has the nickname that
its node holds, although nicknames are not stored. -/
theorem not_read_depends_on_stored_fields :
    ¬ ∀ (c : Catalog) (operation : Operation) (t : EntityRef) (d : Descriptor)
        (w v w' v' : World Scripted) (request : Request) (result result' : Result),
      operation.readType? = some (.type (.entity t)) → c.describeRef t = .ok d →
      (∀ f ∈ c.fieldsOf t, c.isStored f = false → f.default ≠ .required) →
      operation.request c w.now w.nextIdentifier = .ok request →
      (execute request.statement request.parameters).perform w = (.ok result, v) →
      (execute request.statement request.parameters).perform w' = (.ok result', v') →
      v.SameButAnswers v' →
      List.Forall₂ (Record.Alike (c.StoredAlike t)) result.records result'.records →
      Comparable ((read c request result).answers v) ((read c request result').answers v') →
      ((perform c operation).perform w).1 = ((perform c operation).perform w').1 := by
  intro h
  have reads : Example.readGuests.readType? = some (.type (.entity Example.guest.ref)) := rfl
  obtain ⟨d, described⟩ : ∃ d, Example.guests.describeRef Example.guest.ref = .ok d := ⟨_, rfl⟩
  have defaults : ∀ f ∈ Example.guests.fieldsOf Example.guest.ref,
      Example.guests.isStored f = false → f.default ≠ .required := by
    have declared : Example.guests.fieldsOf Example.guest.ref = Example.guest.fields := rfl
    intro f hf _
    rw [declared] at hf
    revert f
    simp [Example.guest, baseFields]
  have alike : Example.guests.StoredAlike Example.guest.ref [(.text "Uuid", .text "g1")]
      [(.text "Uuid", .text "g1"), (.text "nickname", .text "Al")] := by
    have strange : ∀ f ∈ Example.guests.storedFields Example.guest.ref,
        "nickname" ∉ f.inputNames := by decide
    exact fun f hf => Field.sameIn_append (strange f hf) _ _
  have same := h Example.guests Example.readGuests Example.guest.ref d
    (Example.connected [Example.guestWith []])
    (Example.answered Example.allGuests [Example.guestWith []])
    (Example.connected [Example.guestWith [(.text "nickname", .text "Al")]])
    (Example.answered Example.allGuests [Example.guestWith [(.text "nickname", .text "Al")]])
    Example.allGuests (Example.guestWith []) (Example.guestWith [(.text "nickname", .text "Al")])
    reads described defaults rfl rfl rfl ⟨_, _, _, rfl⟩
    (.cons (.nodes (.node rfl) (.node rfl) alike) .nil) (.inl ⟨[], rfl⟩)
  have nameless : Example.isNameless ((perform Example.guests Example.readGuests).perform
    (Example.connected [Example.guestWith []])).1 = true := by decide +kernel
  have named : Example.isNameless ((perform Example.guests Example.readGuests).perform
    (Example.connected [Example.guestWith [(.text "nickname", .text "Al")]])).1 = false := by
    decide +kernel
  rw [same, named] at nameless
  exact Bool.false_ne_true nameless

end Client

end GraphMapper
