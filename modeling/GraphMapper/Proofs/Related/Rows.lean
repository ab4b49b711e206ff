import GraphMapper.Proofs.Related.Merging

/-!
# Reading rows with what they are related to

An operation that reads a list of nodes runs its own statement, and then goes through the rows of
the result: for each it looks up what the node is related to, and makes an entity of both. All
lookups, of all rows, are answered by one stream of results. This file says which statement each
result belongs to (`GraphMapper.Client.reads_each_row`).

A row that was read is a `GraphMapper.Client.Row`: with the findings that its entity was made of,
each with its own statement and result. Rows are read in a **chain**
(`GraphMapper.Client.ReadsAll`), each in the world that the one before it has left, so what was run
for a whole chain is what was run for each row, one after the other
(`GraphMapper.Client.ReadsAll.runs_eq`). A row at which reading
**fails** (`GraphMapper.Client.RowFails`) ends the chain: the world is left as the failing step has
left it.

Entities are made with the time at hand, which does not pass while statements run
(`GraphMapper.World.SameTime`).
-/

namespace GraphMapper

open GraphMapper.Action
open GraphMapper.Related (Finding Follows Stops Merged collected)

/-! ### Statements with their answers -/

/-- The statement that an exchange runs, with its parameters and its answer. -/
def Exchange.run? (x : Exchange) : Option ((String × Value) × Except Fault Result) :=
  x.statement?.map fun sent => (sent, x.answer)

variable {σ : Type}

/-- The statements that were run, in order, with their parameters and their answers. -/
def World.runs (w : World σ) : List ((String × Value) × Except Fault Result) :=
  w.trace.filterMap Exchange.run?

/-- From one world to another at the same time. -/
def World.SameTime (w v : World σ) : Prop := v.clock = w.clock

instance : Passing (World.SameTime (σ := σ)) where
  refl _ := rfl
  trans := fun h h' => h'.trans h
  noted _ _ := rfl
  drawn _ _ := rfl

variable [Database σ]

/-- An execution with a result has run its statement once, and the result is the answer. -/
theorem Execution.filterMap_run? {statement : String} {parameters : Value} {xs : List Exchange}
    {result : Result} (h : Execution statement parameters xs (.ok result)) :
    xs.filterMap Exchange.run? = [((statement, parameters), .ok result)] := by
  cases h with
  | inTransaction running => cases running; rfl
  | inSession database opened closed running => cases running; rfl

theorem Client.runs_of_execute {statement : String} {parameters : Parameters} {w v : World σ}
    {result : Result}
    (h : (execute statement (.ofParameters parameters)).perform w = (.ok result, v)) :
    v.runs = w.runs ++ [((statement, .ofParameters parameters), .ok result)] := by
  have steady : Steady (execute statement (.ofParameters parameters) : Action σ Result) :=
    steady_execute _ _
  have traced := steady.trace_eq w
  rw [h] at traced
  rw [World.runs, traced, List.filterMap_append, (execution_of_ok h).filterMap_run?]
  rfl

theorem Client.sameTime_execute (statement : String) (parameters : Value) :
    Within World.SameTime (execute statement parameters : Action σ Result) :=
  within_execute (R := World.SameTime) (fun _ _ => rfl) (fun _ => rfl) statement parameters

/-! ### Chains of lookups by a client -/

namespace Related.Follows

variable {c : Catalog} {d : Descriptor} {uuid : Value} {w v : World σ} {xs : List Finding}

/-- **What is run for a chain of lookups**: the statement of each, bound to the identifier of the
node, and answered with its result. -/
theorem runs_eq (h : Follows c d Client.execute uuid w xs v) :
    v.runs = w.runs ++
      xs.map fun x => ((x.text, .ofParameters [(rootParameter, uuid)]), .ok x.result) := by
  induction h with
  | nil => exact (List.append_nil _).symm
  | cons _ ran _ _ ih =>
    rw [ih, Client.runs_of_execute ran, List.append_assoc]
    rfl

theorem sameTime (h : Follows c d Client.execute uuid w xs v) : w.SameTime v := by
  induction h with
  | nil w => exact Passing.refl w
  | @cons w u v x rest _ ran _ _ ih =>
    have first : w.SameTime _ :=
      Client.sameTime_execute x.text (.ofParameters [(rootParameter, uuid)]) w
    rw [ran] at first
    exact Passing.trans first ih

end Related.Follows

namespace Client

/-! ### Rows -/

/-- The identifier among some properties, null if there is none. -/
def identifierIn (properties : Entries) : Value :=
  (properties.lookup (.text identifierKey)).getD .null

omit [Database σ] in
theorem identified_iff {properties : Entries} :
    Identified properties ↔ (identifierIn properties).isNull = false := by
  unfold identifierIn
  constructor
  · rintro ⟨uuid, known, present⟩
    rw [known]
    exact present
  · intro present
    cases known : properties.lookup (.text identifierKey) with
    | none =>
      rw [known] at present
      cases present
    | some uuid =>
      rw [known] at present
      exact ⟨uuid, known, present⟩

/-- A row, and what was made of it. -/
structure Row where
  /-- The row. -/
  record : Record
  /-- The properties of its node. -/
  properties : Entries
  /-- What was found through the relationship fields. -/
  findings : List Finding
  /-- The entity. -/
  entity : Value

/-- What was run for a row: a statement for each finding, bound to the identifier of the node. -/
def Row.runs (row : Row) : List ((String × Value) × Except Fault Result) :=
  row.findings.map fun x =>
    ((x.text, .ofParameters [(Related.rootParameter, identifierIn row.properties)]), .ok x.result)

/-- The fields that are looked up for a node with some properties: all that are loaded through an
edge, or none if the node has no identifier. -/
def lookedUp (d : Descriptor) (properties : Entries) : List FieldDescriptor :=
  if (identifierIn properties).isNull then [] else d.relationshipFields

section Reading

variable (c : Catalog) (t : EntityRef) (d : Descriptor) (now : Float)

/-- **A row is read** from one world to another: its fields are looked up one after the other, and
its entity is made of the properties of its node merged with what they led to. -/
structure Reads (w : World σ) (row : Row) (v : World σ) : Prop where
  /-- The row has a node. -/
  gives : row.record.Gives (.map row.properties)
  /-- The lookups follow one another, and nothing but a note follows them. -/
  follows : ∃ u log, Follows c d execute (identifierIn row.properties) w row.findings u ∧
    v = { u with log }
  /-- They are those of the relationship fields, in order, if there is an identifier. -/
  fields : row.findings.map Finding.field = lookedUp d row.properties
  /-- The entity is made of the merged properties. -/
  mapped : ∃ merged, Merged row.properties row.findings merged ∧
    c.mapNode now t (some merged) = .ok row.entity

/-- **Rows are read in a chain**, each in the world that the one before it has left. -/
inductive ReadsAll : World σ → List Row → World σ → Prop where
  /-- There are no rows. -/
  | nil (w : World σ) : ReadsAll w [] w
  /-- The next row is read in the world that is left. -/
  | cons {w u v : World σ} {row : Row} {rest : List Row} (first : Reads c t d now w row u)
    (next : ReadsAll u rest v) : ReadsAll w (row :: rest) v

/-- **Reading a row fails**, and leaves a world. -/
inductive RowFails (record : Record) (w : World σ) : Failure → World σ → Prop where
  /-- The row holds neither null nor a node. -/
  | foreign (isForeign : record.Foreign) :
    RowFails record w (.notANode record.first.kindName) w
  /-- The row has no node. -/
  | missing (isNull : record.first = .null) : RowFails record w (.misuse .wrongKind) w
  /-- Looking up a field stops, after the fields before it have been looked up. -/
  | stopped {properties : Entries} {xs : List Finding} {f : FieldDescriptor}
    {rest : List FieldDescriptor} {u v : World σ} {e : Failure}
    (gives : record.Gives (.map properties))
    (follows : Follows c d execute (identifierIn properties) w xs u)
    (upTo : lookedUp d properties = xs.map Finding.field ++ f :: rest)
    (stops : Stops c d execute (identifierIn properties) f u e v) : RowFails record w e v
  /-- All fields have been looked up, and no entity can be made of what there is. -/
  | unmapped {properties merged : Entries} {xs : List Finding} {u : World σ} {e : Failure}
    (log : List LogEntry) (gives : record.Gives (.map properties))
    (follows : Follows c d execute (identifierIn properties) w xs u)
    (fields : xs.map Finding.field = lookedUp d properties)
    (merges : Merged properties xs merged) (refused : c.mapNode now t (some merged) = .error e) :
    RowFails record w e { u with log }

end Reading

section Rows

variable {c : Catalog} {t : EntityRef} {d : Descriptor} {now : Float} {w v : World σ} {row : Row}
  {rows : List Row}

theorem Reads.runs_eq (h : Reads c t d now w row v) : v.runs = w.runs ++ row.runs := by
  obtain ⟨u, log, follows, rfl⟩ := h.follows
  exact follows.runs_eq

theorem Reads.sameTime (h : Reads c t d now w row v) : w.SameTime v := by
  obtain ⟨u, log, follows, rfl⟩ := h.follows
  exact follows.sameTime

/-- **What is run for a chain of rows** is what is run for each of them, one after the other. -/
theorem ReadsAll.runs_eq (h : ReadsAll c t d now w rows v) :
    v.runs = w.runs ++ rows.flatMap Row.runs := by
  induction h with
  | nil => exact (List.append_nil _).symm
  | cons first _ ih => rw [ih, first.runs_eq, List.append_assoc, List.flatMap_cons]

/-! ### Reading takes these courses -/

omit [Database σ] in
theorem perform_entityOf (properties : Option Entries) (w : World σ) :
    (entityOf c t properties : Action σ Value).perform w = (c.mapNode w.now t properties, w) := by
  rw [entityOf, perform_bind_ok (perform_get w)]
  rfl

omit [Database σ] in
theorem propertiesOf_of_gives {record : Record} {v : Value} (h : record.Gives v) :
    (propertiesOf record.first : Action σ Value) = pure v := by
  have known := Related.nodeOf_eq_ok_iff.mpr h
  unfold Related.nodeOf at known
  obtain ⟨properties?, given, made⟩ := Outcome.bind_eq_ok.mp known
  have received :
      (ofOutcome (.ok properties?) : Action σ (Option Entries)) = pure properties? := rfl
  rw [propertiesOf, given, received, pure_bind]
  cases properties? with
  | none => rw [← Outcome.pure_eq_ok.mp made]
  | some properties => rw [← Outcome.pure_eq_ok.mp made]

omit [Database σ] in
theorem perform_propertiesOf_of_foreign {record : Record} (h : record.Foreign) (w : World σ) :
    (propertiesOf record.first : Action σ Value).perform w =
      (.error (.notANode record.first.kindName), w) := by
  have known := Related.nodeOf_of_foreign h
  unfold Related.nodeOf at known
  rw [propertiesOf, perform_bind, perform_ofOutcome]
  cases given : record.first.nodeProperties with
  | error e => rw [given] at known; exact congrArg (·, w) known
  | ok properties? => rw [given] at known; cases properties? <;> cases known

variable (described : c.describeRef t = .ok d)

include described

/-- Looking up what a node is related to goes to the end, or stops at a field. -/
theorem withRelated_cases (properties : Entries) (w : World σ) :
    (∃ xs u log, Follows c d execute (identifierIn properties) w xs u ∧
        xs.map Finding.field = lookedUp d properties ∧
        (Related.withRelated c execute (.type (.entity t)) (.map properties)).perform w =
          (.ok (Assoc.update properties (collected xs [])), { u with log })) ∨
      ∃ xs f rest u e v, Follows c d execute (identifierIn properties) w xs u ∧
        lookedUp d properties = xs.map Finding.field ++ f :: rest ∧
        Stops c d execute (identifierIn properties) f u e v ∧
        (Related.withRelated c execute (.type (.entity t)) (.map properties)).perform w =
          (.error e, v) := by
  have mapping : (Value.map properties).mapping? = some properties := rfl
  by_cases spared : ¬ Identified properties ∨ d.relationshipFields = []
  · refine .inl ⟨[], w, w.log, .nil w, ?_,
      Related.perform_withRelated_spared described mapping spared⟩
    unfold lookedUp
    rcases spared with anonymous | none
    · rw [identified_iff, Bool.not_eq_false] at anonymous
      rw [if_pos anonymous]
      rfl
    · rw [none, ite_self]
      rfl
  · obtain ⟨identified, related⟩ := not_or.mp spared
    obtain ⟨uuid, known, present⟩ := not_not.mp identified
    have same : identifierIn properties = uuid := by rw [identifierIn, known, Option.getD_some]
    have all : lookedUp d properties = d.relationshipFields := by
      rw [lookedUp, same, present]
      rfl
    rw [same, all]
    rcases Related.follows_or_stops d.relationshipFields w with
      ⟨xs, u, follows, fields⟩ | ⟨xs, f, rest, u, e, v, follows, upTo, stops⟩
    · obtain ⟨log, done⟩ :=
        follows.perform_withRelated described mapping known present related fields
      exact .inl ⟨xs, u, log, follows, fields, done⟩
    · exact .inr ⟨xs, f, rest, u, e, v, follows, upTo, stops,
        stops.perform_withRelated described mapping known present related follows upTo⟩

/-- **A row is read, or reading it fails.** -/
theorem reads_or_fails (record : Record) (w : World σ) :
    (∃ row v, row.record = record ∧ Reads c t d w.now w row v ∧
        (do entityWithRelated c t (← propertiesOf record.first) : Action σ Value).perform w =
          (.ok row.entity, v)) ∨
      ∃ e v, RowFails c t d w.now record w e v ∧
        (do entityWithRelated c t (← propertiesOf record.first) : Action σ Value).perform w =
          (.error e, v) := by
  rcases Related.gives_or_foreign record with ⟨given, gives⟩ | isForeign
  · rw [propertiesOf_of_gives gives, pure_bind]
    cases gives with
    | null isNull =>
      exact .inr ⟨_, w, .missing isNull, perform_bind_error (perform_bind_error rfl)⟩
    | @node entries lists =>
      generalize hp : Assoc.ofEntries entries = properties
      have gives : record.Gives (.map properties) := hp ▸ .node lists
      rcases withRelated_cases described properties w with
        ⟨xs, u, log, follows, fields, done⟩ | ⟨xs, f, rest, u, e, v, follows, upTo, stops, done⟩
      · have merges := Related.merged_update properties xs
        have time : World.now { u with log } = w.now := congrArg (· * 1000) follows.sameTime
        have made := perform_entityOf (c := c) (t := t)
          (some (Assoc.update properties (collected xs []))) { u with log }
        rw [time] at made
        rw [entityWithRelated, perform_bind_ok done, made]
        cases mapped : c.mapNode w.now t (some (Assoc.update properties (collected xs []))) with
        | ok entity =>
          exact .inl ⟨⟨record, properties, xs, entity⟩, _, rfl,
            ⟨gives, ⟨u, log, follows, rfl⟩, fields, _, merges, mapped⟩, rfl⟩
        | error e => exact .inr ⟨e, _, .unmapped log gives follows fields merges mapped, rfl⟩
      · exact .inr ⟨e, v, .stopped gives follows upTo stops, perform_bind_error done⟩
  · exact .inr ⟨_, w, .foreign isForeign,
      perform_bind_error (perform_propertiesOf_of_foreign isForeign w)⟩

/-- **Rows are read in a chain to the end, or up to the first that fails.** -/
theorem readsAll_or_fails (records : List Record) (w : World σ) :
    (∃ rows v, ReadsAll c t d w.now w rows v ∧ rows.map Row.record = records ∧
        (readNodesWithRelated c t records).perform w = (.ok (rows.map Row.entity), v)) ∨
      ∃ rows u record rest e v, ReadsAll c t d w.now w rows u ∧
        records = rows.map Row.record ++ record :: rest ∧ RowFails c t d w.now record u e v ∧
        (readNodesWithRelated c t records).perform w = (.error e, v) := by
  induction records generalizing w with
  | nil => exact .inl ⟨[], w, .nil w, rfl, rfl⟩
  | cons record rest ih =>
    have stepwise : (readNodesWithRelated c t (record :: rest) : Action σ (List Value)) = (do
        let entity ← (do entityWithRelated c t (← propertiesOf record.first))
        let entities ← readNodesWithRelated c t rest
        pure (entity :: entities)) := by
      rw [readNodesWithRelated, bind_assoc]
    rw [stepwise]
    rcases reads_or_fails described record w with ⟨row, u, rfl, reads, done⟩ | ⟨e, v, fails, done⟩
    · have time : u.now = w.now := congrArg (· * 1000) reads.sameTime
      rw [perform_bind_ok done]
      rcases ih u with ⟨rows, v, next, rfl, others⟩ |
        ⟨rows, u', record, rest, e, v, next, rfl, fails, others⟩
      · rw [time] at next
        exact .inl ⟨row :: rows, v, .cons reads next, rfl, perform_bind_ok others⟩
      · rw [time] at next fails
        exact .inr ⟨row :: rows, u', record, rest, e, v, .cons reads next, rfl, fails,
          perform_bind_error others⟩
    · exact .inr ⟨[], w, record, rest, e, v, .nil w, rfl, fails, perform_bind_error done⟩

end Rows

/-! ### Operations that read nodes -/

variable {c : Catalog} {operation : Operation} {type : Value}

omit [Database σ] in
/-- An operation that reads nodes makes its request, and leaves the world as it is. -/
theorem perform_prepare_of_read (reads : operation.readType? = some type) {w : World σ}
    {r : Request} (h : operation.request c w.now w.nextIdentifier = .ok r) :
    (prepare c operation : Action σ Request).perform w = (.ok r, w) := by
  have unneeded : operation.needsIdentifier = false := by
    cases operation with
    | add | merge => cases reads
    | _ => rfl
  rw [prepare, perform_bind_ok (perform_get w), h, perform_bind_ok (perform_ofOutcome _ w),
    unneeded]
  rfl

/-- **Each row is read with its own lookups.** Take an operation that reads a list of nodes, any
world, and whatever the driver answers. If it returns, the statement of its request was run first,
and then, for one row of the result after the other, one statement for each relationship field in
order, bound to the identifier of the node, or none if there is no identifier. The list holds one
entity for each row, in order, made of the properties of its node merged with what the statements
of this row led to. If it fails, the request was refused and nothing was run; or its statement
failed; or all was as it should be up to a row at which reading fails. The world is as the failing
step has left it, so nothing was run after that. -/
theorem reads_each_row (c : Catalog) (lists : operation.listType? = some type) (w : World σ) :
    (∀ value v, (perform c operation).perform w = (.ok value, v) →
      ∃ t d r root u rows, type = .type (.entity t) ∧ c.describeRef t = .ok d ∧
        operation.request c w.now w.nextIdentifier = .ok r ∧
        (execute r.statement r.parameters).perform w = (.ok root, u) ∧
        ReadsAll c t d w.now u rows v ∧ rows.map Row.record = root.records ∧
        value = .list (rows.map Row.entity) ∧
        v.runs = w.runs ++ ((r.statement, r.parameters), .ok root) :: rows.flatMap Row.runs) ∧
      ∀ e v, (perform c operation).perform w = (.error e, v) →
        operation.request c w.now w.nextIdentifier = .error e ∧ v = w ∨
        ∃ t d r, type = .type (.entity t) ∧ c.describeRef t = .ok d ∧
          operation.request c w.now w.nextIdentifier = .ok r ∧
          ((execute r.statement r.parameters).perform w = (.error e, v) ∨
            ∃ root u rows u' record rest,
              (execute r.statement r.parameters).perform w = (.ok root, u) ∧
              ReadsAll c t d w.now u rows u' ∧
              root.records = rows.map Row.record ++ record :: rest ∧
              RowFails c t d w.now record u' e v) := by
  cases requested : operation.request c w.now w.nextIdentifier with
  | error problem =>
    rw [perform_of_request_error requested]
    refine ⟨fun value v h => ?_, fun e v h => .inl ?_⟩
    · cases h
    · cases h
      exact ⟨rfl, rfl⟩
  | ok r =>
    obtain ⟨t, d, rfl, described, reading, parameters, bound⟩ := listing_of_request lists requested
    have sent : (perform c operation).perform w = (send c r).perform w :=
      perform_bind_ok (perform_prepare_of_read (Operation.readType?_of_listType? lists) requested)
    rw [sent, send]
    rcases ran : (execute r.statement r.parameters).perform w with ⟨f | root, u⟩
    · -- The statement of the request fails.
      rw [perform_bind_error ran]
      refine ⟨fun value v h => ?_, fun e v h => .inr ⟨t, d, r, rfl, described, rfl, .inl ?_⟩⟩
      · cases h
      · cases h
        exact ran
    · have opened : (read c r root : Action σ Value) =
          (do pure (.list (← readNodesWithRelated c t root.records))) := by rw [read, reading]
      have time : u.now = w.now := by
        have same := sameTime_execute r.statement r.parameters w
        rw [ran] at same
        exact congrArg (· * 1000) same
      rw [perform_bind_ok ran, opened]
      rcases readsAll_or_fails described root.records u with
        ⟨rows, v, chain, records, done⟩ |
          ⟨rows, u', record, rest, e, v, chain, records, fails, done⟩
      · rw [perform_bind_ok done]
        rw [time] at chain
        refine ⟨fun value v' h => ?_, fun e v' h => ?_⟩
        · cases h
          refine ⟨t, d, r, root, u, rows, rfl, described, rfl, ran, chain, records, rfl, ?_⟩
          rw [bound] at ran ⊢
          rw [chain.runs_eq, runs_of_execute ran, List.append_assoc]
          rfl
        · cases h
      · rw [perform_bind_error done]
        rw [time] at chain fails
        refine ⟨fun value v' h => ?_, fun e' v' h => ?_⟩
        · cases h
        · cases h
          exact .inr ⟨t, d, r, rfl, described, rfl,
            .inr ⟨root, u, rows, u', record, rest, ran, chain, records, fails⟩⟩

end Client

namespace Example

/-- The result that holds a user with an identifier and one without. -/
def twoUsers : Result :=
  { records := [⟨[("n", .node [(.text "Uuid", .text "u1"), (.text "Email", .text "a@x")])]⟩,
      ⟨[("n", .node [(.text "Email", .text "a@x")])]⟩] }

/-- A client that is about to read these users, and a friend of the first. -/
def readingUsers : World Scripted := connected [twoUsers, oneUser]

end Example

/-- Two users are read with one lookup, since one of them has no identifier. -/
theorem Client.reads_each_row_users : ∃ (value : Value) (v : World Scripted) (root : Result)
    (rows : List Row) (sent : String × Value),
    (perform Example.users (Example.lookFor "a@x")).perform Example.readingUsers = (.ok value, v) ∧
      value = .list (rows.map Row.entity) ∧ rows.map Row.record = root.records ∧
      v.runs = (sent, .ok root) :: rows.flatMap Row.runs ∧ v.runs.length = 2 := by
  have succeeds : ((perform Example.users (Example.lookFor "a@x")).perform
      Example.readingUsers).1.isOk = true := by decide +kernel
  have count : ((perform Example.users (Example.lookFor "a@x")).perform
      Example.readingUsers).2.runs.length = 2 := by decide +kernel
  have lists : (Example.lookFor "a@x").listType? = some Example.userType := rfl
  obtain ⟨returns, -⟩ := reads_each_row Example.users lists Example.readingUsers
  rcases completed : (perform Example.users (Example.lookFor "a@x")).perform
    Example.readingUsers with ⟨f | value, v⟩
  · rw [completed] at succeeds
    cases succeeds
  · rw [completed] at count
    obtain ⟨t, d, r, root, u, rows, -, -, -, -, -, records, given, runs⟩ :=
      returns value v completed
    exact ⟨value, v, root, rows, _, rfl, given, records, runs, count⟩

end GraphMapper
