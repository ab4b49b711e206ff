import GraphMapper.Database.Scripted
import GraphMapper.Proofs.Declaring
import GraphMapper.Proofs.Execution
import GraphMapper.Proofs.Request

/-!
# What an operation sends

An operation sends the statement of its request first, and then, if it reads nodes with what
they are related to, lookups. This file says so of the code: every exchange of an operation
that runs a statement runs either of the two.

* `GraphMapper.Client.exists_request`: an operation that sends anything has made a request,
  and sends what sending the request sends.
* `GraphMapper.Client.statements_send`: of the statements that are sent for a request, its own
  is the first.
* `GraphMapper.Client.within_send`: a relation within which the statement of a request and all
  lookups stay is one within which all stays that is done for it.
-/

namespace GraphMapper

open GraphMapper.Action

/-- Exchanges that run only statements of which something holds. -/
def Sends (Q : String → Value → Prop) (xs : List Exchange) : Prop :=
  ∀ s ∈ xs.filterMap Exchange.statement?, Q s.1 s.2

instance (Q : String → Value → Prop) : Chained (Sends Q) where
  nil := by simp [Sends]
  append := by
    intro xs ys hx hy s hs
    rw [List.filterMap_append, List.mem_append] at hs
    exact hs.elim (hx s) (hy s)

/-- A statement with parameters that looks up nodes related to one. -/
def IsLookup (statement : String) (parameters : Value) : Prop :=
  ∃ (label : Identifier) (edge : Relationship) (related : Identifier) (uuid : Value),
    statement = Wording.lookup label.text edge related.text ∧
      parameters = .ofParameters [(Related.rootParameter, uuid)]

/-- Whether what a node is related to is looked up in a reading. -/
def Reading.looksUp : Reading → Bool
  | nodeWithRelated _ | nodesWithRelated _ => true
  | _ => false

variable {σ : Type} [Database σ] {c : Catalog} {Q : String → Value → Prop}
  {L : List Exchange → Prop} [Chained L] {R : World σ → World σ → Prop} [Passing R]

/-! ### Executions -/

theorem Running.filterMap_statement? {runner : Runner} {statement : String} {parameters : Value}
    {xs : List Exchange} {outcome : Except Failure Result}
    (h : Running runner statement parameters xs outcome) :
    xs.filterMap Exchange.statement? = [(statement, parameters)] := by
  cases h <;> rfl

/-- An execution sends its statement, or it fails and sends none. -/
theorem Execution.filterMap_statement? {statement : String} {parameters : Value}
    {xs : List Exchange} {outcome : Except Failure Result}
    (h : Execution statement parameters xs outcome) :
    xs.filterMap Exchange.statement? = [(statement, parameters)] ∨
      xs.filterMap Exchange.statement? = [] ∧ ∃ e, outcome = .error e := by
  cases h with
  | inTransaction running => exact .inl running.filterMap_statement?
  | unopened _ _ fault => exact .inr ⟨rfl, _, rfl⟩
  | inSession _ _ _ running | unclosed _ _ _ running =>
    refine .inl ?_
    rw [List.cons_append, List.filterMap_cons_none rfl, List.filterMap_append,
      running.filterMap_statement?]
    rfl

theorem Execution.sends {statement : String} {parameters : Value} {xs : List Exchange}
    {outcome : Except Failure Result} (h : Execution statement parameters xs outcome)
    (hQ : Q statement parameters) : Sends Q xs := by
  intro s hs
  rcases h.filterMap_statement? with he | ⟨he, -⟩
  · rw [he, List.mem_singleton] at hs
    rwa [hs]
  · rw [he] at hs
    cases hs

namespace Client

/-- Executing a statement stays within every relation that calls stay within, and the counting of
sessions. -/
theorem within_execute (asked : ∀ c, Within R (call c : Action σ Result))
    (counted : Within R (Engine.nextSession : Action σ Nat)) (statement : String)
    (parameters : Value) : Within R (execute statement parameters : Action σ Result) := by
  refine (within_get.bind fun _ => within_pure _).bind fun handle? => ?_
  cases handle? with
  | none =>
    exact (Engine.within_openSession asked counted _).bind fun session =>
      (Engine.within_runOn asked _ _ _).ensuring (Engine.within_closeSession asked session)
  | some handle =>
    refine (within_get.bind fun _ => within_pure _).bind fun t => ?_
    split
    · exact Engine.within_runOn asked _ _ _
    · exact within_fail _

theorem steady_execute (statement : String) (parameters : Value) :
    Steady (execute statement parameters : Action σ Result) :=
  within_execute Engine.steady_call Engine.steady_nextSession statement parameters

/-- **What holds of every course of an execution is all that it asks.** -/
theorem asks_execute {statement : String} {parameters : Parameters}
    (h : ∀ xs outcome, Execution statement (.ofParameters parameters) xs outcome → L xs) :
    Asks L (execute statement (.ofParameters parameters) : Action σ Result) := by
  intro w
  have steady : Steady (execute statement (.ofParameters parameters) : Action σ Result) :=
    steady_execute _ _
  refine ⟨(steady w).1, _, steady.trace_eq w, ?_⟩
  by_cases hw : w.Ready
  · exact h _ _ (execution_execute statement parameters hw)
  · obtain ⟨e, he⟩ := execute_of_not_ready statement (.ofParameters parameters) hw
    rw [exchanges_of_trace (by rw [he])]
    exact Chained.nil

theorem sends_execute {statement : String} {parameters : Parameters}
    (hQ : Q statement (.ofParameters parameters)) :
    Asks (Sends Q) (execute statement (.ofParameters parameters) : Action σ Result) :=
  asks_execute fun _ _ course => course.sends hQ

end Client

/-! ### Lookups -/

namespace Related

theorem statement_eq_ok {d : Descriptor} {f : FieldDescriptor} {s : String}
    (h : statement c d f = .ok s) : ∃ edge related many r,
      f.role = .relationship edge related many ∧ c.describeRef related = .ok r ∧
        s = Wording.lookup d.label.text edge r.label.text := by
  unfold statement at h
  split at h
  · next edge related many hf =>
    obtain ⟨r, hr, h⟩ := Outcome.bind_eq_ok.mp h
    rw [Wording.statementFor_eq] at h
    exact ⟨edge, related, many, r, hf, hr, (Except.ok.inj h).symm⟩
  · cases h

omit [Database σ] in
theorem within_noteFound (name : String) (uuid : Value) (found : Entries) :
    Within R (noteFound name uuid found : Action σ Unit) := by
  unfold noteFound
  split
  · exact within_pure _
  · exact within_note _ _ _

variable (hL : ∀ statement parameters, IsLookup statement (.ofParameters parameters) →
  Within R (Client.execute statement (.ofParameters parameters) : Action σ Result))

include hL

/-- By induction on the fields: each sends one lookup, if its statement comes about. -/
theorem within_fetchFields (d : Descriptor) (uuid : Value) (fields : List FieldDescriptor)
    (found : Entries) :
    Within R
      (fetchFields c (Client.execute (σ := σ)) d uuid fields found) := by
  induction fields generalizing found with
  | nil => exact within_pure _
  | cons f rest ih =>
    refine within_ofOutcome_bind fun s hs => ?_
    obtain ⟨edge, _, _, r, -, -, rfl⟩ := statement_eq_ok hs
    exact (hL _ _ ⟨d.label, edge, r.label, uuid, rfl, rfl⟩).bind fun _ =>
      (within_ofOutcome _).bind fun _ => ih _

theorem within_fetch (type uuid : Value) :
    Within R (fetch c (Client.execute (σ := σ)) type uuid) := by
  exact (within_ofOutcome _).bind fun _ => (within_ofOutcome _).bind fun _ =>
    (within_fetchFields hL _ _ _ _).bind fun _ => (within_noteFound _ _ _).bind fun _ =>
    within_pure _

theorem within_withRelated (type properties : Value) :
    Within R (withRelated c (Client.execute (σ := σ)) type properties) := by
  refine (within_ofOutcome _).bind fun merged => ?_
  dsimp only
  split
  · exact within_pure _
  · refine (within_ofOutcome _).bind fun d => ?_
    split
    · exact within_pure _
    · exact (within_fetch hL _ _).bind fun _ => within_pure _

end Related

/-! ### Reading the result -/

namespace Client

section Quiet

omit [Database σ] in
theorem within_entityOf (type : EntityRef) (properties : Option Entries) :
    Within R (entityOf c type properties : Action σ Value) :=
  within_get.bind fun _ => within_ofOutcome _

omit [Database σ] in
theorem within_readNode (type : EntityRef) (result : Result) :
    Within R (readNode c type result : Action σ Value) :=
  (within_ofOutcome _).bind fun _ => within_entityOf _ _

omit [Database σ] in
theorem within_propertiesOf (v : Value) : Within R (propertiesOf v : Action σ Value) := by
  refine (within_ofOutcome _).bind fun properties => ?_
  cases properties with
  | none => exact within_pure _
  | some _ => exact within_pure _

omit [Database σ] in
theorem within_readNodes (type : EntityRef) (records : List Record) :
    Within R (readNodes c type records : Action σ (List Value)) := by
  induction records with
  | nil => exact within_pure _
  | cons record rest ih =>
    refine (within_ofOutcome _).bind fun properties => ?_
    cases properties with
    | none => exact ih
    | some _ => exact (within_entityOf _ _).bind fun _ => ih.bind fun _ => within_pure _

/-- A reading that looks nothing up stays within every relation that passes on. -/
theorem within_read_of_not_looksUp {r : Request} (h : r.reading.looksUp = false) (result : Result) :
    Within R (read c r result : Action σ Value) := by
  unfold read
  split
  · split
    · exact within_fail _
    · exact (within_note _ _ _).bind fun _ => within_readNode _ _
  · exact within_readNode _ _
  · next hr => rw [hr] at h; cases h
  · next hr => rw [hr] at h; cases h
  · exact (within_readNodes _ _).bind fun _ => within_pure _
  · exact within_pure _
  · exact within_pure _
  · exact within_pure _
  · exact within_pure _
  · exact within_pure _
  · exact within_pure _
  · exact within_pure _
  · split
    · exact within_fail _
    · exact within_pure _

end Quiet

section Lookups

variable (hL : ∀ statement parameters, IsLookup statement (.ofParameters parameters) →
  Within R (execute statement (.ofParameters parameters) : Action σ Result))

include hL

theorem within_entityWithRelated (type : EntityRef) (properties : Value) :
    Within R (entityWithRelated c type properties : Action σ Value) :=
  (Related.within_withRelated hL _ _).bind fun _ => within_entityOf _ _

theorem within_readNodesWithRelated (type : EntityRef) (records : List Record) :
    Within R (readNodesWithRelated c type records : Action σ (List Value)) := by
  induction records with
  | nil => exact within_pure _
  | cons record rest ih =>
    exact (within_propertiesOf _).bind fun _ => (within_entityWithRelated hL _ _).bind fun _ =>
      ih.bind fun _ => within_pure _

/-- Reading a result sends lookups, and nothing else. -/
theorem within_read (r : Request) (result : Result) :
    Within R (read c r result : Action σ Value) := by
  cases hr : r.reading with
  | nodeWithRelated type =>
    unfold read
    rw [hr]
    refine (within_ofOutcome _).bind fun properties => ?_
    cases properties with
    | none => exact within_pure _
    | some _ => exact within_entityWithRelated hL _ _
  | nodesWithRelated type =>
    unfold read
    rw [hr]
    exact (within_readNodesWithRelated hL _ _).bind fun _ => within_pure _
  | _ => exact within_read_of_not_looksUp (by rw [hr]; rfl) result

/-- **Where the statement of a request stays, and all lookups, all stays that is done for it.** -/
theorem within_send {r : Request} {parameters : Parameters}
    (hp : r.parameters = .ofParameters parameters)
    (hr : Within R (execute r.statement (.ofParameters parameters) : Action σ Result)) :
    Within R (send c r : Action σ Value) := by
  unfold send
  rw [hp]
  exact hr.bind fun _ => within_read hL r _

end Lookups

theorem within_send_of_not_looksUp {r : Request} {parameters : Parameters}
    (hp : r.parameters = .ofParameters parameters) (hl : r.reading.looksUp = false)
    (hr : Within R (execute r.statement (.ofParameters parameters) : Action σ Result)) :
    Within R (send c r : Action σ Value) := by
  unfold send
  rw [hp]
  exact hr.bind fun _ => within_read_of_not_looksUp hl _

theorem steady_read (r : Request) (result : Result) : Steady (read c r result : Action σ Value) :=
  within_read (fun _ _ _ => steady_execute _ _) r result

/-- **The statement of a request is sent first**, if anything is. -/
theorem statements_send {r : Request} {parameters : Parameters}
    (hp : r.parameters = .ofParameters parameters) (w : World σ) :
    (send c r).statements w = [] ∨ ∃ lookups,
      (send c r).statements w = (r.statement, .ofParameters parameters) :: lookups := by
  by_cases hw : w.Ready
  · have course := (execution_execute (σ := σ) r.statement parameters hw).filterMap_statement?
    unfold send statements
    rw [hp]
    rcases h : (execute r.statement (.ofParameters parameters)).perform w with ⟨_ | result, v⟩
    · -- Without a result nothing is read, and so nothing is looked up.
      rw [exchanges_bind_error h]
      exact course.elim (fun h => .inr ⟨[], h⟩) fun h => .inl h.1
    · rw [h] at course
      rw [exchanges_bind_ok (steady_execute _ _) (steady_read r) h, List.filterMap_append]
      rcases course with h | ⟨-, e, he⟩
      · exact .inr ⟨_, by rw [h]; rfl⟩
      · cases he
  · obtain ⟨e, he⟩ := execute_of_not_ready r.statement r.parameters hw
    have stopped : (send c r).perform w = (.error e, w) := perform_bind_error he
    exact .inl (by rw [statements, exchanges_of_trace (by rw [stopped])]; rfl)

/-! ### Preparing the request -/

/-- An operation fails as its request does, and leaves the world as it is. -/
theorem perform_of_request_error {operation : Operation} {w : World σ} {e : Failure}
    (h : operation.request c w.now w.nextIdentifier = .error e) :
    (perform c operation).perform w = (.error e, w) := by
  have stopped : (prepare c operation : Action σ Request).perform w = (.error e, w) := by
    rw [prepare, perform_bind_ok (perform_get w), h]
    rfl
  exact perform_bind_error stopped

omit [Database σ] in
/-- A request that comes about leaves the world as it is, except for the identifiers to come. -/
theorem exists_perform_prepare {operation : Operation} {w : World σ} {r : Request}
    (h : operation.request c w.now w.nextIdentifier = .ok r) :
    ∃ v, (prepare c operation : Action σ Request).perform w = (.ok r, v) ∧ w.SameClient v ∧
      v.trace = w.trace := by
  have found : (ofOutcome (.ok r) : Action σ Request).perform w = (.ok r, w) := rfl
  rw [prepare, perform_bind_ok (perform_get w), h, perform_bind_ok found]
  split
  · exact ⟨_, rfl, ⟨rfl, rfl, rfl⟩, rfl⟩
  · exact ⟨w, rfl, .refl w, rfl⟩

/-- **What an operation asks for, it asks for its request**: an operation that asks for anything
has made one, and the client is in the same state when the request is sent. -/
theorem exists_request_of_exchanges {operation : Operation} {w : World σ}
    (h : (perform c operation).exchanges w ≠ []) :
    ∃ r v, operation.request c w.now w.nextIdentifier = .ok r ∧ w.SameClient v ∧
      (perform c operation).exchanges w = (send c r).exchanges v := by
  cases hr : operation.request c w.now w.nextIdentifier with
  | error e => exact absurd (exchanges_of_trace (by rw [perform_of_request_error hr])) h
  | ok r =>
    obtain ⟨v, hv, hc, ht⟩ := exists_perform_prepare hr
    exact ⟨r, v, rfl, hc, by rw [perform, exchanges_bind_of_trace hv ht]⟩

/-- **What an operation sends, it sends for its request.** -/
theorem exists_request {operation : Operation} {w : World σ}
    (h : (perform c operation).statements w ≠ []) :
    ∃ r v, operation.request c w.now w.nextIdentifier = .ok r ∧ w.SameClient v ∧
      (perform c operation).statements w = (send c r).statements v := by
  have asked : (perform c operation).exchanges w ≠ [] := by
    intro hx
    exact h (by rw [statements, hx]; rfl)
  obtain ⟨r, v, hr, hc, hx⟩ := exists_request_of_exchanges asked
  exact ⟨r, v, hr, hc, by rw [statements, hx, statements]⟩

/-- **An operation that looks nothing up sends the statement of its request**, once, or it sends
nothing and fails. -/
theorem statements_of_not_looksUp {operation : Operation} {w : World σ} {r : Request}
    {parameters : Parameters} (h : operation.request c w.now w.nextIdentifier = .ok r)
    (quiet : r.reading.looksUp = false) (hp : r.parameters = .ofParameters parameters) :
    (perform c operation).statements w = [(r.statement, r.parameters)] ∨
      (perform c operation).statements w = [] ∧
        ∃ e, ((perform c operation).perform w).1 = .error e := by
  obtain ⟨v, prepared, -, trace⟩ := exists_perform_prepare h
  have sent : (perform c operation).statements w =
      ((execute r.statement r.parameters : Action σ Result).exchanges v).filterMap
        Exchange.statement? := by
    rw [statements, perform, exchanges_bind_of_trace prepared trace, send,
      exchanges_bind_of_quiet (steady_execute _ _) (within_read_of_not_looksUp quiet)]
  have failed {e : Failure} {u : World σ}
      (ran : (execute r.statement r.parameters).perform v = (.error e, u)) :
      ∃ e, ((perform c operation).perform w).1 = .error e :=
    ⟨e, by rw [perform, perform_bind_ok prepared, send, perform_bind_error ran]⟩
  rw [sent]
  by_cases ready : v.Ready
  · have course := (execution_execute (σ := σ) r.statement parameters ready).filterMap_statement?
    rw [← hp] at course
    rcases ran : (execute r.statement r.parameters).perform v with ⟨e | result, u⟩
    · exact course.imp_right fun nothing => ⟨nothing.1, failed ran⟩
    · rw [ran] at course
      refine course.imp_right fun nothing => ?_
      obtain ⟨-, e, failed⟩ := nothing
      cases failed
  · obtain ⟨e, ran⟩ := execute_of_not_ready r.statement r.parameters ready
    exact .inr ⟨by rw [exchanges_of_trace (by rw [ran]), List.filterMap_nil], failed ran⟩

/-- An operation that looks nothing up sends the statement of its request, and no other. -/
theorem mem_statements_of_not_looksUp (operation : Operation) {w : World σ}
    (quiet : ∀ r, operation.request c w.now w.nextIdentifier = .ok r →
      r.reading.looksUp = false ∧ ∃ parameters, r.parameters = .ofParameters parameters)
    {sent : String × Value} (h : sent ∈ (perform c operation).statements w) :
    ∃ r, operation.request c w.now w.nextIdentifier = .ok r ∧
      sent = (r.statement, r.parameters) := by
  obtain ⟨r, v, hr, -, hv⟩ := exists_request (List.ne_nil_of_mem h)
  obtain ⟨looksUp, parameters, hp⟩ := quiet r hr
  have asks : Asks (Sends fun s p => (s, p) = (r.statement, r.parameters))
      (send c r : Action σ Value) :=
    within_send_of_not_looksUp hp looksUp (sends_execute (by rw [hp]))
  rw [hv] at h
  exact ⟨r, hr, asks.holds v sent h⟩

end Client

/-! ### A small graph

Users who know each other, and a client connected to a database with prepared results: enough
to see the general results at work on a case. -/

namespace Example

/-- The type of the relationship between users can be used as a type. -/
theorem isIdentifier_knows : isIdentifier "KNOWS".toList = true := by decide

/-- Users have an address, and know other users. -/
def user : EntityType :=
  { number := 0
    name := "User"
    label := .text "User"
    fields := baseFields ++
      [{ name := "email", type := .optional (.plain .text), alias? := some "Email",
         default := .value .null },
       { name := "friends", type := .collection .list (.entity (.declared 0 "User")),
         default := .emptyList,
         marks := [.relationship ⟨⟨"KNOWS", isIdentifier_knows⟩, .outgoing⟩] }] }

/-- The catalog of users. -/
def users : Catalog := ⟨[user]⟩

theorem declared_users : users.Declared :=
  .declare (d :=
    { name := "User"
      fields :=
        [{ name := "email", type := .optional (.plain .text), alias? := some "Email",
           default := .value .null },
         { name := "friends", type := .collection .list (.entity (.pending "User")),
           default := .emptyList,
           marks := [.relationship ⟨⟨"KNOWS", isIdentifier_knows⟩, .outgoing⟩] }] })
    .nothing rfl

/-- The type of users, as a value. -/
def userType : Value := .type (.entity user.ref)

/-- A user with an address. -/
def userWith (email : String) : Value :=
  .entity user.ref
    [("uuid", .null), ("created_at", .float 0), ("updated_at", .null),
      ("is_deleted", .bool false), ("email", .text email), ("friends", .list [])]

/-- The result that holds one user. -/
def oneUser : Result :=
  { records := [⟨[("n", .node [(.text "Uuid", .text "u1"), (.text "Email", .text "a@x")])]⟩] }

/-- A client connected to a database with some results prepared. -/
def connected (results : List Result) : World Scripted :=
  { database := { results }
    clock := 0
    engine :=
      { connection := ⟨.text "bolt://localhost", none, []⟩
        database := .text "neo4j"
        link := .up 1 } }

/-- The same client, some time later. -/
def later : World Scripted := { connected [] with clock := 5 }

/-- Reading users by their address. -/
def lookFor (address : String) : Operation :=
  .getByProperties userType (.map [(.text "email", .text address)])

end Example

end GraphMapper
