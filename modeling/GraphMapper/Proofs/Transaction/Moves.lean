import GraphMapper.Proofs.Execution

/-!
# What a transaction handle does

A handle can be begun, used to run a statement, committed, rolled back and closed, and its scope
can be entered and left: these are its **moves**. A handle is **settled** if it is active and holds
a session together with the transaction begun in it, or is idle and holds nothing. This file says
in full what a move of a settled handle does: `GraphMapper.Transaction.Turn` lists the turns it can
take, each with its outcome, the exchanges it makes and the handle it leaves, and
`GraphMapper.Transaction.takesTurn_action` says that there are no others. The handle it leaves is
settled again (`GraphMapper.Transaction.Turn.settled`).

Sessions are numbered as they are asked for, so a new one has a number that no session had before:
`GraphMapper.World.Leads` keeps count.
-/

namespace GraphMapper

open GraphMapper.Action

variable {σ : Type}

/-! ### Exchanges about sessions -/

namespace Exchange

/-- The session that an exchange asks for, whether it is opened or not. -/
def requested? (x : Exchange) : Option Nat :=
  match x.call with
  | .openSession session _ => some session
  | _ => none

/-- The session that an exchange opens. -/
def opened? (x : Exchange) : Option Nat :=
  match x.call, x.answer with
  | .openSession session _, .ok _ => some session
  | _, _ => none

/-- The session that an exchange closes, whether the driver manages to or not. -/
def closed? (x : Exchange) : Option Nat :=
  match x.call with
  | .closeSession session => some session
  | _ => none

/-- The transaction that an exchange begins. -/
def begun? (x : Exchange) : Option Nat :=
  match x.call, x.answer with
  | .begin session, .ok _ => some session
  | _, _ => none

/-- The transaction that an exchange commits or rolls back, whether the driver manages to or
not. -/
def ended? (x : Exchange) : Option Nat :=
  match x.call with
  | .commit session | .rollback session => some session
  | _ => none

end Exchange

/-! ### Worlds that others lead to -/

namespace World

/-- **A world leads to another** by some exchanges: these are added to the trace, the sessions
asked for are counted, and the handles become the given ones. The engine stays, and so does the
handle that the client began last. -/
structure Leads (w v : World σ) (xs : List Exchange) (handles : List Transaction) : Prop where
  /-- The exchanges are added to the trace. -/
  trace : v.trace = w.trace ++ xs
  /-- The sessions asked for are counted. -/
  sessions : v.sessions = w.sessions + (xs.filterMap Exchange.requested?).length
  /-- The handles are the given ones. -/
  transactions : v.transactions = handles
  /-- The engine stays. -/
  engine : v.engine = w.engine
  /-- The handle that the client began last stays. -/
  current : v.current? = w.current?

namespace Leads

theorem refl (w : World σ) : w.Leads w [] w.transactions :=
  ⟨(List.append_nil _).symm, rfl, rfl, rfl, rfl⟩

theorem trans {u v w : World σ} {xs ys : List Exchange} {handles handles' : List Transaction}
    (h : u.Leads v xs handles) (h' : v.Leads w ys handles') : u.Leads w (xs ++ ys) handles' where
  trace := by rw [h'.trace, h.trace, List.append_assoc]
  sessions := by rw [h'.sessions, h.sessions, List.filterMap_append, List.length_append]; omega
  transactions := h'.transactions
  engine := h'.engine.trans h.engine
  current := h'.current.trans h.current

/-- A note is no exchange. -/
theorem noted {w v : World σ} {xs : List Exchange} {handles : List Transaction}
    (h : w.Leads v xs handles) (log : List LogEntry) : w.Leads { v with log } xs handles :=
  ⟨h.trace, h.sessions, h.transactions, h.engine, h.current⟩

/-- It does not matter what notes there were. -/
theorem of_noted {w v : World σ} {log : List LogEntry} {xs : List Exchange}
    {handles : List Transaction} (h : ({ w with log } : World σ).Leads v xs handles) :
    w.Leads v xs handles :=
  ⟨h.trace, h.sessions, h.transactions, h.engine, h.current⟩

theorem sameClient {w v : World σ} {xs : List Exchange} (h : w.Leads v xs w.transactions) :
    w.SameClient v :=
  ⟨h.engine, h.transactions, h.current⟩

end Leads

theorem transaction_of_getElem? {w : World σ} {handle : Nat} {t : Transaction}
    (h : w.transactions[handle]? = some t) : w.transaction handle = t := by
  rw [transaction, h, Option.getD_some]

end World

namespace Action

variable {α : Type} {body : Action σ α} {cleanup : Action σ Unit} {w v : World σ}

theorem perform_onFailure_ok {x : α} (h : body.perform w = (.ok x, v)) :
    (onFailure body cleanup).perform w = (.ok x, v) := by
  rw [onFailure, perform_ofStep, h]

/-- If both fail, the failure is that of the cleanup. -/
theorem perform_onFailure_error {e : Failure} {outcome : Except Failure Unit} {u : World σ}
    (h : body.perform w = (.error e, v)) (hc : cleanup.perform v = (outcome, u)) :
    ∃ f, (onFailure body cleanup).perform w = (.error f, u) ∧ (f = e ∨ outcome = .error f) := by
  rw [onFailure, perform_ofStep, h]
  dsimp only
  rw [hc]
  cases outcome with
  | ok _ => exact ⟨e, rfl, .inl rfl⟩
  | error f => exact ⟨f, rfl, .inr rfl⟩

end Action

section Calls

variable [Database σ]

/-- A call is one exchange, and its outcome is the answer. -/
theorem Action.leads_call {c : Call} (hc : ∀ session database, c ≠ .openSession session database)
    (w : World σ) : ∃ answer v, (call c).perform w = (answer.mapError .fault, v) ∧
      w.Leads v [⟨c, answer⟩] w.transactions := by
  refine ⟨_, _, rfl, rfl, ?_, rfl, rfl, rfl⟩
  cases c with
  | openSession session database => exact absurd rfl (hc session database)
  | _ => rfl

/-- A call whose result is not looked at. -/
theorem Action.leads_call_unit {c : Call}
    (hc : ∀ session database, c ≠ .openSession session database) (w : World σ) :
    ∃ answer v, (do let _ ← call c : Action σ Unit).perform w =
        ((answer.mapError .fault).map fun _ => (), v) ∧ w.Leads v [⟨c, answer⟩] w.transactions := by
  obtain ⟨answer, v, h, leads⟩ := leads_call hc w
  refine ⟨answer, v, ?_, leads⟩
  cases answer with
  | error fault => exact perform_bind_error h
  | ok result => exact perform_bind_ok h

/-- An outcome that is a success or a fault of the driver. -/
def Reported (e : Except Failure Unit) : Prop := ∀ f, e = .error f → ∃ fault, f = .fault fault

theorem reported_ok : Reported (.ok ()) := fun _ h => by cases h

theorem reported_answer (answer : Except Fault Result) :
    Reported ((answer.mapError .fault).map fun _ => ()) := by
  cases answer with
  | ok => exact reported_ok
  | error fault => exact fun f h => ⟨fault, (Except.error.inj h).symm⟩

omit [Database σ] in
/-- What is done in the end reports its own faults, or those of the body. -/
theorem Reported.ensuring {body cleanup : Action σ Unit} {w : World σ}
    (hb : Reported (body.perform w).1) (hc : Reported (cleanup.perform (body.perform w).2).1) :
    Reported ((ensuring body cleanup).perform w).1 := by
  rw [perform_ensuring]
  generalize cleanup.perform (body.perform w).2 = left at hc ⊢
  obtain ⟨_ | _, v⟩ := left
  · exact hc
  · exact hb

namespace Engine

theorem leads_closeSession (session : Nat) (w : World σ) :
    ∃ answer v, (closeSession session).perform w =
        ((answer.mapError .fault).map fun _ => (), v) ∧
      w.Leads v [⟨.closeSession session, answer⟩] w.transactions :=
  leads_call_unit (c := .closeSession session) (fun _ _ h => nomatch h) w

/-- What opening a session comes to: an engine that is not connected refuses, another asks for the
next session. -/
theorem leads_openSession (database : Value) (w : World σ) :
    (∃ uri, (openSession database).perform w = (.error (.notConnected uri), w)) ∨
    ∃ answer v, (openSession database).perform w =
        ((answer.mapError .fault).map fun _ => w.sessions + 1, v) ∧
      w.Leads v [⟨.openSession (w.sessions + 1) (w.engine.databaseOf database), answer⟩]
        w.transactions := by
  by_cases up : w.engine.link.isUp = true
  · refine .inr ?_
    obtain ⟨d, hd⟩ : ∃ d, (driver : Action σ Nat).perform w = (.ok d, w) := by
      rw [perform_driver]
      cases hl : w.engine.link with
      | up d => exact ⟨d, rfl⟩
      | _ => rw [hl] at up; cases up
    let u : World σ := { w with sessions := w.sessions + 1 }
    have named : (nextSession : Action σ Nat).perform w = (.ok (w.sessions + 1), u) := rfl
    have chosen : (current : Action σ Engine).perform u = (.ok w.engine, u) := perform_current u
    rw [openSession, perform_bind_ok hd, perform_bind_ok named, perform_bind_ok chosen]
    let c : Call := .openSession (w.sessions + 1) (w.engine.databaseOf database)
    refine ⟨(u.respond c).1, (u.respond c).2, ?_, rfl, rfl, rfl, rfl, rfl⟩
    have asked : (call c).perform u = (((u.respond c).1).mapError .fault, (u.respond c).2) := rfl
    cases ha : (u.respond c).1 with
    | error fault => exact perform_bind_error (asked.trans (by rw [ha]; rfl))
    | ok result => exact perform_bind_ok (asked.trans (by rw [ha]; rfl))
  · refine .inl ⟨w.engine.connection.uri.display, perform_bind_error ?_⟩
    rw [perform_driver]
    cases hl : w.engine.link with
    | up d => rw [hl] at up; exact absurd rfl up
    | _ => rfl

/-- The statement and then the summary take one of the courses. -/
theorem leads_call_run (runner : Runner) (statement : String) (parameters : Value) (w : World σ) :
    ∃ e v xs, (do let result ← call (.run runner statement parameters)
                  let _ ← call .consume
                  pure result : Action σ Result).perform w = (e, v) ∧
      Running runner statement parameters xs e ∧ w.Leads v xs w.transactions := by
  obtain ⟨answer, v, hp, leads⟩ := leads_call (c := .run runner statement parameters)
    (fun _ _ h => nomatch h) w
  cases answer with
  | error fault => exact ⟨_, v, _, perform_bind_error hp, .failed fault, leads⟩
  | ok result =>
    obtain ⟨answer, u, hp', leads'⟩ := leads_call (c := .consume) (fun _ _ h => nomatch h) v
    rw [leads.transactions] at leads'
    rw [perform_bind_ok hp]
    cases answer with
    | error fault =>
      exact ⟨_, u, _, perform_bind_error hp', .unfinished result fault, leads.trans leads'⟩
    | ok summary =>
      exact ⟨_, u, _, perform_bind_ok hp', .finished result summary, leads.trans leads'⟩

/-- Running a statement takes one of the courses, unless its parameters are refused. -/
theorem leads_runOn (runner : Runner) (statement : String) (parameters : Value) (w : World σ) :
    (∃ m, (runOn runner statement parameters).perform w = (.error (.misuse m), w)) ∨
    ∃ given e v xs, (runOn runner statement parameters).perform w = (e, v) ∧
      Running runner statement given xs e ∧ w.Leads v xs w.transactions := by
  obtain ⟨given, hg⟩ : ∃ given, (runOn runner statement parameters : Action σ Result) = (do
      let names ← ofOutcome (parameterNames given)
      Action.note .debug .engine ("Running statement: " ++ statement ++ " (parameters: "
        ++ (Value.list names).written ++ ")")
      let result ← call (.run runner statement given)
      let _ ← call .consume
      pure result) := ⟨_, rfl⟩
  rw [hg]
  cases hn : parameterNames given with
  | error e =>
    obtain ⟨m, rfl⟩ : ∃ m, e = .misuse m := by
      unfold parameterNames at hn
      split at hn
      · cases hn
      · exact ⟨_, (Except.error.inj hn).symm⟩
    exact .inl ⟨m, perform_bind_error (perform_ofOutcome _ w)⟩
  | ok names =>
    rw [perform_bind_ok (perform_ofOutcome _ w), perform_bind_ok (perform_note _ _ _ w)]
    have noted := (World.Leads.refl w).noted (w.log ++ [⟨.debug, .engine,
      "Running statement: " ++ statement ++ " (parameters: " ++ (Value.list names).written ++ ")"⟩])
    obtain ⟨e, v, xs, hp, running, leads⟩ := leads_call_run runner statement given
      { w with log := w.log ++ [⟨.debug, .engine, "Running statement: " ++ statement ++
        " (parameters: " ++ (Value.list names).written ++ ")"⟩] }
    exact .inr ⟨given, e, v, xs, hp, running, noted.trans leads⟩

end Engine

namespace Transaction

/-! ### Settled handles -/

/-- A handle that is active and holds a session together with the transaction begun in it, or is
idle and holds nothing. -/
inductive Settled : Transaction → Prop where
  /-- It is idle and holds nothing. -/
  | idle (database : Value) : Settled ⟨database, .idle, none, none⟩
  /-- It is active and holds both. -/
  | active (database : Value) (session : Nat) :
    Settled ⟨database, .active, some session, some session⟩

/-! ### Opening a session with a transaction -/

/-- What opening the next session with a transaction in it can come to. -/
inductive Opening (next : Nat) : Except Failure Nat → List Exchange → Prop where
  /-- The engine is not connected, and nothing is asked. -/
  | refused (uri : String) : Opening next (.error (.notConnected uri)) []
  /-- The session cannot be opened. -/
  | unopened (database : Value) (fault : Fault) :
    Opening next (.error (.fault fault)) [⟨.openSession next database, .error fault⟩]
  /-- The transaction cannot be begun, and the session is closed again. -/
  | unbegun (database : Value) (opened : Result) (fault : Fault) (closed : Except Fault Result)
    (reported : Fault) :
    Opening next (.error (.fault reported)) [⟨.openSession next database, .ok opened⟩,
      ⟨.begin next, .error fault⟩, ⟨.closeSession next, closed⟩]
  /-- Both succeed. -/
  | begun (database : Value) (opened begun : Result) :
    Opening next (.ok next) [⟨.openSession next database, .ok opened⟩, ⟨.begin next, .ok begun⟩]

theorem opening_openWork (database : Value) (w : World σ) :
    ∃ e v xs, (openWork database).perform w = (e, v) ∧ Opening (w.sessions + 1) e xs ∧
      w.Leads v xs w.transactions := by
  rcases Engine.leads_openSession database w with ⟨uri, hp⟩ | ⟨answer, v, hp, leads⟩
  · exact ⟨_, w, [], perform_bind_error hp, .refused uri, .refl w⟩
  cases answer with
  | error fault => exact ⟨_, v, _, perform_bind_error hp, .unopened _ fault, leads⟩
  | ok opened =>
    rw [openWork, perform_bind_ok hp]
    obtain ⟨answer, u, hb, leads'⟩ := leads_call_unit (c := .begin (w.sessions + 1))
      (fun _ _ h => nomatch h) v
    rw [leads.transactions] at leads'
    cases answer with
    | ok begun =>
      exact ⟨_, u, _, perform_bind_ok (perform_onFailure_ok hb), .begun _ opened begun,
        leads.trans leads'⟩
    | error fault =>
      -- The session is closed, and if that fails too its fault is the one reported.
      obtain ⟨answer, t, hc, leads''⟩ := Engine.leads_closeSession (w.sessions + 1) u
      rw [leads'.transactions] at leads''
      obtain ⟨reported, hf⟩ : ∃ reported, (onFailure (do let _ ← call (.begin (w.sessions + 1)))
          (Engine.closeSession (w.sessions + 1))).perform v = (.error (.fault reported), t) := by
        obtain ⟨f, hp, rfl | hf⟩ := perform_onFailure_error hb hc
        · exact ⟨fault, hp⟩
        · obtain ⟨reported, rfl⟩ := reported_answer answer f hf
          exact ⟨reported, hp⟩
      exact ⟨_, t, _, perform_bind_error hf, .unbegun _ opened fault answer reported,
        (leads.trans leads').trans leads''⟩

/-! ### Moves -/

/-- What can be done with a handle. -/
inductive Move where
  /-- Begin. -/
  | begin
  /-- Run a statement. -/
  | run (statement : String) (parameters : Value)
  /-- Commit. -/
  | commit
  /-- Roll back. -/
  | rollback
  /-- Close. -/
  | close
  /-- Enter the scope. -/
  | enter
  /-- Leave the scope. -/
  | leave

namespace Move

/-- The action of a move. -/
def action (handle : Nat) : Move → Action σ Unit
  | begin => Transaction.begin handle
  | run statement parameters => do let _ ← Transaction.run handle statement parameters
  | commit => Transaction.commit handle
  | rollback => Transaction.rollback handle
  | close | leave => Transaction.close handle
  | enter => Transaction.enter handle

/-- Whether a move can make an idle handle active. -/
def begins : Move → Bool
  | begin | enter => true
  | _ => false

/-- The call by which a move ends an active transaction. -/
def ending? : Move → Option (Nat → Call)
  | commit => some .commit
  | rollback | close | leave => some .rollback
  | _ => none

end Move

/-- **The turns a handle can take** at a move, `next` being the number of the next session: the
outcome, the exchanges, and the handle that is left. -/
inductive Turn (t : Transaction) (next : Nat) :
    Move → Except Failure Unit → List Exchange → Transaction → Prop where
  /-- The state of the handle does not allow the move. -/
  | refused (m : Move) (p : TransactionProblem) : Turn t next m (.error (.transaction p)) [] t
  /-- There is nothing to be done. -/
  | idled (m : Move) : Turn t next m (.ok ()) [] t
  /-- No session is opened, or no transaction is begun in it. -/
  | unbegun {m : Move} {e : Failure} {xs : List Exchange} (begins : m.begins = true)
    (idle : t.isActive = false) (opening : Opening next (.error e) xs) :
    Turn t next m (.error e) xs t
  /-- A transaction is begun. -/
  | begun {m : Move} {xs : List Exchange} (begins : m.begins = true) (idle : t.isActive = false)
    (opening : Opening next (.ok next) xs) : Turn t next m (.ok ()) xs (t.begun next)
  /-- The parameters of a statement are refused. -/
  | misused (statement : String) (parameters : Value) (misuse : Misuse) :
    Turn t next (.run statement parameters) (.error (.misuse misuse)) [] t
  /-- A statement takes its course in the transaction. -/
  | ran {statement : String} {given parameters : Value} {work : Nat} {xs : List Exchange}
    {e : Except Failure Result} (holds : t.work? = some work)
    (running : Running (.transaction work) statement parameters xs e) :
    Turn t next (.run statement given) (e.map fun _ => ()) xs t
  /-- The transaction ends, and what the handle holds is released. -/
  | ended {m : Move} {ending : Nat → Call} {held : Nat} {e : Except Failure Unit}
    (ends : m.ending? = some ending) (work : t.work? = some held) (session : t.session? = some held)
    (answer released closed : Except Fault Result) (reported : Reported e) :
    Turn t next m e [⟨ending held, answer⟩, ⟨.closeTransaction held, released⟩,
      ⟨.closeSession held, closed⟩] t.released

/-- A settled handle is settled after every turn. -/
theorem Turn.settled {t t' : Transaction} {next : Nat} {m : Move} {e : Except Failure Unit}
    {xs : List Exchange} (h : Turn t next m e xs t') (ht : t.Settled) : t'.Settled := by
  cases h with
  | begun => exact .active t.database next
  | ended => exact .idle t.database
  | _ => exact ht

/-! ### A move takes one of the turns -/

omit [Database σ] in
theorem perform_get (handle : Nat) (w : World σ) :
    (get handle : Action σ Transaction).perform w = (.ok (w.transaction handle), w) :=
  rfl

omit [Database σ] in
theorem perform_put (handle : Nat) (t : Transaction) (w : World σ) :
    (put handle t : Action σ Unit).perform w =
      (.ok (), { w with transactions := w.transactions.set handle t }) :=
  rfl

omit [Database σ] in
theorem leads_put (handle : Nat) (t : Transaction) (w : World σ) :
    w.Leads { w with transactions := w.transactions.set handle t } []
      (w.transactions.set handle t) :=
  ⟨(List.append_nil _).symm, rfl, rfl, rfl, rfl⟩

/-- What a handle holds is released, whether the driver manages to or not. -/
theorem leads_dispose {handle held : Nat} {w : World σ}
    (work : (w.transaction handle).work? = some held)
    (session : (w.transaction handle).session? = some held) :
    ∃ released closed, Reported ((dispose handle).perform w).1 ∧
      w.Leads ((dispose handle).perform w).2
        [⟨.closeTransaction held, released⟩, ⟨.closeSession held, closed⟩]
        (w.transactions.set handle (w.transaction handle).released) := by
  rw [dispose, perform_bind_ok (perform_get handle w), perform_bind_ok (perform_put handle _ w),
    work, session]
  have put := leads_put handle (w.transaction handle).released w
  generalize ({ w with transactions := w.transactions.set handle (w.transaction handle).released } :
    World σ) = u at put ⊢
  obtain ⟨released, v, hr, leads⟩ := leads_call_unit (c := .closeTransaction held)
    (fun _ _ h => nomatch h) u
  obtain ⟨closed, v', hc, leads'⟩ := Engine.leads_closeSession held v
  rw [leads.transactions] at leads'
  refine ⟨released, closed, .ensuring ?_ ?_, ?_⟩
  · rw [hr]
    exact reported_answer released
  · rw [hr, hc]
    exact reported_answer closed
  · rw [perform_ensuring_snd, hr, hc, ← put.transactions]
    exact put.trans (leads.trans leads')

/-- Ending an active transaction is one call, and then what the handle holds is released. -/
theorem leads_finish {handle held : Nat} {w : World σ} {ending : Nat → Call}
    (hc : ∀ n session database, ending n ≠ .openSession session database)
    (active : (w.transaction handle).phase = .active)
    (work : (w.transaction handle).work? = some held)
    (session : (w.transaction handle).session? = some held)
    (refusal : TransactionProblem) (remark : String) :
    ∃ answer released closed, Reported ((finish handle refusal ending remark).perform w).1 ∧
      w.Leads ((finish handle refusal ending remark).perform w).2
        [⟨ending held, answer⟩, ⟨.closeTransaction held, released⟩, ⟨.closeSession held, closed⟩]
        (w.transactions.set handle (w.transaction handle).released) := by
  unfold finish
  rw [perform_bind_ok (perform_get handle w), active, work]
  -- What is done before releasing: the call, and a note if that succeeds.
  obtain ⟨answer, v, hp, reported, leads⟩ : ∃ answer v,
      ((do let _ ← call (ending held); note remark : Action σ Unit).perform w).2 = v ∧
      Reported ((do let _ ← call (ending held); note remark : Action σ Unit).perform w).1 ∧
      w.Leads v [⟨ending held, answer⟩] w.transactions := by
    obtain ⟨answer, v, hp, leads⟩ := leads_call (hc held) w
    cases answer with
    | error fault =>
      rw [perform_bind_error hp]
      exact ⟨.error fault, v, rfl, fun f hf => ⟨fault, (Except.error.inj hf).symm⟩, leads⟩
    | ok result =>
      rw [perform_bind_ok hp]
      exact ⟨.ok result, _, rfl, fun f hf => (by cases hf), leads.noted _⟩
  have kept : v.transaction handle = w.transaction handle := by
    rw [World.transaction, World.transaction, leads.transactions]
  obtain ⟨released, closed, reported', leads'⟩ := leads_dispose (σ := σ) (w := v)
    (by rw [kept]; exact work) (by rw [kept]; exact session)
  refine ⟨answer, released, closed, Reported.ensuring reported (hp ▸ reported'), ?_⟩
  rw [perform_ensuring_snd, hp]
  rw [kept, leads.transactions] at leads'
  exact leads.trans leads'

/-- Ending an active transaction is a turn. -/
theorem turn_finish {handle held next : Nat} {w : World σ} {m : Move} {ending : Nat → Call}
    (hm : m.ending? = some ending)
    (hc : ∀ n session database, ending n ≠ .openSession session database)
    (active : (w.transaction handle).phase = .active)
    (work : (w.transaction handle).work? = some held)
    (session : (w.transaction handle).session? = some held)
    (refusal : TransactionProblem) (remark : String) :
    ∃ xs, Reported ((finish handle refusal ending remark).perform w).1 ∧
      Turn (w.transaction handle) next m ((finish handle refusal ending remark).perform w).1 xs
        (w.transaction handle).released ∧
      w.Leads ((finish handle refusal ending remark).perform w).2 xs
        (w.transactions.set handle (w.transaction handle).released) := by
  obtain ⟨answer, released, closed, reported, leads⟩ :=
    leads_finish hc active work session refusal remark
  exact ⟨_, reported, .ended hm work session answer released closed reported, leads⟩

omit [Database σ] in
/-- Setting a handle to what it is changes nothing. -/
theorem set_transaction {handle : Nat} {w : World σ} (h : handle < w.transactions.length) :
    w.transactions.set handle (w.transaction handle) = w.transactions := by
  rw [World.transaction, List.getElem?_eq_getElem h, Option.getD_some, List.set_getElem_self]

/-- The turn that a move takes, with the world that is left. A move that the state of the handle
does not allow changes nothing at all. -/
def TakesTurn (handle : Nat) (w : World σ) (m : Move) (a : Action σ Unit) : Prop :=
  ∃ xs t, Turn (w.transaction handle) (w.sessions + 1) m (a.perform w).1 xs t ∧
    w.Leads (a.perform w).2 xs (w.transactions.set handle t) ∧
    ((∃ p, (a.perform w).1 = .error (.transaction p)) → (a.perform w).2 = w)

section

variable {handle : Nat} {w : World σ} {m : Move} {a : Action σ Unit}

omit [Database σ] in
/-- A move that leaves the world as it is. -/
theorem takesTurn_of_eq {e : Except Failure Unit} (hh : handle < w.transactions.length)
    (hp : a.perform w = (e, w)) (turn : Turn (w.transaction handle) (w.sessions + 1) m e []
      (w.transaction handle)) : TakesTurn handle w m a := by
  refine ⟨[], w.transaction handle, by rwa [hp], ?_, fun _ => by rw [hp]⟩
  rw [hp, set_transaction hh]
  exact .refl w

theorem takesTurn_begin (hm : m.begins = true) (hh : handle < w.transactions.length) :
    TakesTurn handle w m (begin handle) := by
  by_cases active : (w.transaction handle).isActive = true
  · refine takesTurn_of_eq hh ?_ (.refused m .alreadyActive)
    rw [begin, perform_bind_ok (perform_get handle w), if_pos active]
    rfl
  · have idle : (w.transaction handle).isActive = false := by simpa using active
    obtain ⟨e, v, xs, hp, opening, leads⟩ := opening_openWork (w.transaction handle).database w
    have start : (begin handle).perform w = (do
        let session ← openWork (w.transaction handle).database
        put handle ((w.transaction handle).begun session)
        noteBegun : Action σ Unit).perform w := by
      rw [begin, perform_bind_ok (perform_get handle w), if_neg active]
    cases e with
    | error e =>
      rw [perform_bind_error hp] at start
      refine ⟨xs, w.transaction handle, ?_, ?_, ?_⟩
      · rw [start]
        exact .unbegun hm idle opening
      · rw [start, set_transaction hh]
        exact leads
      · rw [start]
        rintro ⟨p, h⟩
        obtain rfl := Except.error.inj h
        cases opening
    | ok session =>
      obtain rfl : session = w.sessions + 1 := by cases opening; rfl
      rw [perform_bind_ok hp, perform_bind_ok (perform_put handle _ v)] at start
      refine ⟨xs, (w.transaction handle).begun (w.sessions + 1), ?_, ?_, ?_⟩
      · rw [start]
        exact .begun hm idle opening
      · rw [start, ← leads.transactions, ← List.append_nil xs]
        have put := leads_put handle ((w.transaction handle).begun (w.sessions + 1)) v
        exact (leads.trans put).noted _
      · rw [start]
        rintro ⟨p, h⟩
        cases h

theorem takesTurn_finish {ending : Nat → Call} (hm : m.ending? = some ending)
    (hc : ∀ n session database, ending n ≠ .openSession session database)
    (settled : (w.transaction handle).Settled) (hh : handle < w.transactions.length)
    (refusal : TransactionProblem) (remark : String) :
    TakesTurn handle w m (finish handle refusal ending remark) := by
  generalize ht : w.transaction handle = t at settled
  cases settled with
  | idle database =>
    refine takesTurn_of_eq hh ?_ (.refused m refusal)
    rw [finish, perform_bind_ok (perform_get handle w), ht]
    rfl
  | active database held =>
    obtain ⟨xs, reported, turn, leads⟩ : ∃ xs,
        Reported ((finish handle refusal ending remark).perform w).1 ∧
        Turn (w.transaction handle) (w.sessions + 1) m
          ((finish handle refusal ending remark).perform w).1 xs (w.transaction handle).released ∧
        w.Leads ((finish handle refusal ending remark).perform w).2 xs
          (w.transactions.set handle (w.transaction handle).released) :=
      turn_finish hm hc (by rw [ht]) (by rw [ht]) (by rw [ht]) refusal remark
    refine ⟨xs, _, turn, leads, ?_⟩
    rintro ⟨p, h⟩
    obtain ⟨fault, hf⟩ := reported _ h
    cases hf

theorem takesTurn_run (settled : (w.transaction handle).Settled)
    (hh : handle < w.transactions.length) (statement : String) (parameters : Value) :
    TakesTurn handle w (.run statement parameters)
      (do let _ ← run handle statement parameters) := by
  generalize ht : w.transaction handle = t at settled
  cases settled with
  | idle database =>
    refine takesTurn_of_eq hh (perform_bind_error ?_) (.refused _ .notActive)
    rw [run, perform_bind_ok (perform_get handle w), ht]
    rfl
  | active database work =>
    have routed : (run handle statement parameters).perform w =
        (Engine.runOn (.transaction work) statement parameters).perform w := by
      rw [run, perform_bind_ok (perform_get handle w), ht]
    rcases Engine.leads_runOn (.transaction work) statement parameters w with
      ⟨misuse, hp⟩ | ⟨given, e, v, xs, hp, running, leads⟩
    · exact takesTurn_of_eq hh (perform_bind_error (routed.trans hp)) (.misused _ _ misuse)
    · have dropped : (do let _ ← run handle statement parameters : Action σ Unit).perform w =
          (e.map fun _ => (), v) := by
        cases e with
        | error e => exact perform_bind_error (routed.trans hp)
        | ok result => exact perform_bind_ok (routed.trans hp)
      refine ⟨xs, w.transaction handle, ?_, ?_, ?_⟩
      · rw [dropped]
        exact .ran (by rw [ht]) running
      · rw [dropped, set_transaction hh]
        exact leads
      · rw [dropped]
        rintro ⟨p, h⟩
        cases running <;> cases h

theorem takesTurn_close (hm : m.ending? = some .rollback)
    (settled : (w.transaction handle).Settled) (hh : handle < w.transactions.length) :
    TakesTurn handle w m (close handle) := by
  generalize ht : w.transaction handle = t at settled
  cases settled with
  | idle database =>
    refine takesTurn_of_eq hh ?_ (.idled m)
    rw [close, perform_bind_ok (perform_get handle w), ht]
    rfl
  | active database held =>
    let u : World σ := { w with log := w.log ++
      [⟨.debug, .transaction, "Transaction closed without commit, rolling back"⟩] }
    have rolled : (close handle).perform w = (rollback handle).perform u := by
      rw [close, perform_bind_ok (perform_get handle w), ht]
      exact perform_bind_ok (perform_note _ _ _ w)
    have hu : u.transaction handle = ⟨database, .active, some held, some held⟩ := ht
    obtain ⟨xs, reported, turn, leads⟩ : ∃ xs, Reported ((rollback handle).perform u).1 ∧
        Turn (u.transaction handle) (w.sessions + 1) m ((rollback handle).perform u).1 xs
          (u.transaction handle).released ∧
        u.Leads ((rollback handle).perform u).2 xs
          (u.transactions.set handle (u.transaction handle).released) :=
      turn_finish hm (by rintro _ _ _ ⟨⟩) (by rw [hu]) (by rw [hu]) (by rw [hu]) _ _
    refine ⟨xs, (w.transaction handle).released, ?_, ?_, ?_⟩
    · rw [rolled]
      exact turn
    · rw [rolled]
      exact leads.of_noted
    · rw [rolled]
      rintro ⟨p, h⟩
      obtain ⟨fault, hf⟩ := reported _ h
      cases hf

theorem takesTurn_enter (hh : handle < w.transactions.length) :
    TakesTurn handle w .enter (enter handle) := by
  by_cases active : (w.transaction handle).isActive = true
  · refine takesTurn_of_eq hh ?_ (.idled .enter)
    rw [enter, perform_bind_ok (perform_get handle w), if_pos active]
    rfl
  · have begun : (enter handle).perform w = (begin handle).perform w := by
      rw [enter, perform_bind_ok (perform_get handle w), if_neg active]
    have turn : TakesTurn handle w .enter (begin handle) := takesTurn_begin rfl hh
    rwa [TakesTurn, begun]

/-- **A move of a settled handle takes one of the turns.** -/
theorem takesTurn_action (settled : (w.transaction handle).Settled)
    (hh : handle < w.transactions.length) (m : Move) : TakesTurn handle w m (m.action handle) := by
  cases m with
  | begin => exact takesTurn_begin rfl hh
  | run statement parameters => exact takesTurn_run settled hh statement parameters
  | commit => exact takesTurn_finish rfl (by rintro _ _ _ ⟨⟩) settled hh _ _
  | rollback => exact takesTurn_finish rfl (by rintro _ _ _ ⟨⟩) settled hh _ _
  | close => exact takesTurn_close rfl settled hh
  | leave => exact takesTurn_close rfl settled hh
  | enter => exact takesTurn_enter hh

end

end Transaction

end Calls

end GraphMapper
