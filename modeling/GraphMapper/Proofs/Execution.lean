import GraphMapper.Client
import GraphMapper.Proofs.Exchanges

/-!
# What running a statement asks of the driver

The client runs a statement in the active transaction, or else in a session of its own. This
file says which exchanges that makes, in full: `GraphMapper.Execution` lists the courses an
execution can take, each with its outcome, and `GraphMapper.Client.execution_execute` says
that there are no others. Whoever wants to know something about executions goes through the
courses, and does not look at the code again.

Parameters with names always pass the engine's inspection, since texts compare
(`GraphMapper.Engine.exists_parameterNames`). A client that cannot run statements at all – its
engine is not connected – asks nothing.
-/

namespace GraphMapper

open GraphMapper.Action

variable {σ : Type} [Database σ]

/-- Whether statements get through to the driver: the active transaction holds one of the
driver, or there is no active transaction and the engine is connected. -/
def World.Ready (w : World σ) : Prop :=
  match w.activeHandle? with
  | some handle => (w.transaction handle).work?.isSome = true
  | none => w.engine.link.isUp = true

omit [Database σ] in
theorem World.SameClient.activeHandle?_eq {w v : World σ} (h : w.SameClient v) :
    v.activeHandle? = w.activeHandle? := by
  unfold World.activeHandle? World.transaction
  rw [h.current, h.transactions]

omit [Database σ] in
/-- A client in the same state is as ready. -/
theorem World.Ready.of_sameClient {w v : World σ} (hw : w.Ready) (h : w.SameClient v) :
    v.Ready := by
  unfold World.Ready at hw ⊢
  rw [h.activeHandle?_eq]
  unfold World.transaction at hw ⊢
  rw [h.transactions, h.engine]
  exact hw

/-! ### Names of parameters -/

namespace Engine

/-- A text finds its place among texts. -/
theorem exists_insertOrdered_text (s : String) (texts : List String) :
    ∃ others : List String,
      Value.insertOrdered (.text s) (texts.map .text) = some (others.map .text) := by
  induction texts with
  | nil => exact ⟨[s], rfl⟩
  | cons t rest ih =>
    obtain ⟨others, h⟩ := ih
    rw [List.map_cons, Value.insertOrdered, Value.standing?]
    split
    · next hs => cases hs
    · exact ⟨t :: others, by rw [h]; rfl⟩
    · exact ⟨s :: t :: rest, rfl⟩

theorem exists_ordered_texts (texts : List String) :
    ∃ others : List String, Value.ordered? (texts.map .text) = some (others.map .text) := by
  induction texts with
  | nil => exact ⟨[], rfl⟩
  | cons s rest ih =>
    obtain ⟨others, h⟩ := ih
    obtain ⟨placed, hp⟩ := exists_insertOrdered_text s others
    exact ⟨placed, by rw [List.map_cons, Value.ordered?, h]; exact hp⟩

/-- **Names of parameters can be put in order.** -/
theorem exists_parameterNames (parameters : Parameters) :
    ∃ names, parameterNames (.ofParameters parameters) = .ok names := by
  obtain ⟨names, h⟩ := exists_ordered_texts (parameters.map Prod.fst)
  have keys : (Value.ofParameters parameters).elements? =
      some ((parameters.map Prod.fst).map .text) := by
    simp [Value.ofParameters, Value.ofNames, Value.elements?]
  exact ⟨names.map .text, by rw [parameterNames, keys, Option.bind_some, h]⟩

end Engine

/-! ### The courses of an execution -/

/-- The courses of running a statement on a runner: it fails, or its summary cannot be
fetched, or all goes well. -/
inductive Running (runner : Runner) (statement : String) (parameters : Value) :
    List Exchange → Except Failure Result → Prop where
  /-- The statement fails. -/
  | failed (fault : Fault) :
    Running runner statement parameters [⟨.run runner statement parameters, .error fault⟩]
      (.error (.fault fault))
  /-- The summary cannot be fetched. -/
  | unfinished (result : Result) (fault : Fault) :
    Running runner statement parameters
      [⟨.run runner statement parameters, .ok result⟩, ⟨.consume, .error fault⟩]
      (.error (.fault fault))
  /-- All goes well. -/
  | finished (result summary : Result) :
    Running runner statement parameters
      [⟨.run runner statement parameters, .ok result⟩, ⟨.consume, .ok summary⟩] (.ok result)

/-- The courses of executing a statement: in a transaction, or in a session that is opened
before and closed behind it. -/
inductive Execution (statement : String) (parameters : Value) :
    List Exchange → Except Failure Result → Prop where
  /-- It runs in a transaction. -/
  | inTransaction {work : Nat} {xs : List Exchange} {outcome : Except Failure Result}
    (running : Running (.transaction work) statement parameters xs outcome) :
    Execution statement parameters xs outcome
  /-- No session can be opened for it. -/
  | unopened (session : Nat) (database : Value) (fault : Fault) :
    Execution statement parameters [⟨.openSession session database, .error fault⟩]
      (.error (.fault fault))
  /-- It runs in a session of its own. -/
  | inSession {session : Nat} {xs : List Exchange} {outcome : Except Failure Result}
    (database : Value) (opened closed : Result)
    (running : Running (.session session) statement parameters xs outcome) :
    Execution statement parameters
      (⟨.openSession session database, .ok opened⟩ :: xs ++ [⟨.closeSession session, .ok closed⟩])
      outcome
  /-- It runs in a session that cannot be closed. -/
  | unclosed {session : Nat} {xs : List Exchange} {outcome : Except Failure Result}
    (database : Value) (opened : Result) (fault : Fault)
    (running : Running (.session session) statement parameters xs outcome) :
    Execution statement parameters
      (⟨.openSession session database, .ok opened⟩ :: xs ++ [⟨.closeSession session, .error fault⟩])
      (.error (.fault fault))

/-! ### Execution takes one of the courses -/

namespace Engine

section Within

variable {R : World σ → World σ → Prop} [Passing R]
  (asked : ∀ c, Within R (call c : Action σ Result))

include asked

theorem within_closeSession (session : Nat) : Within R (closeSession session : Action σ Unit) :=
  (asked _).bind fun _ => within_pure ()

theorem within_runOn (runner : Runner) (statement : String) (parameters : Value) :
    Within R (runOn runner statement parameters : Action σ Result) :=
  (within_ofOutcome _).bind fun _ => (within_note _ _ _).bind fun _ =>
    (asked _).bind fun _ => (asked _).bind fun _ => within_pure _

theorem within_openSession (counted : Within R (nextSession : Action σ Nat)) (database : Value) :
    Within R (openSession database : Action σ Nat) := by
  refine Within.bind ?_ fun _ => counted.bind fun _ => Within.bind ?_ fun _ =>
    (asked _).bind fun _ => within_pure _
  · refine (within_get.bind fun _ => within_pure _).bind fun engine => ?_
    split
    · exact within_pure _
    · exact within_fail _
  · exact within_get.bind fun _ => within_pure _

end Within

theorem steady_call (c : Call) : Steady (call c : Action σ Result) := asks_call fun _ => trivial

theorem steady_closeSession (session : Nat) : Steady (closeSession session : Action σ Unit) :=
  within_closeSession steady_call session

theorem steady_runOn (runner : Runner) (statement : String) (parameters : Value) :
    Steady (runOn runner statement parameters : Action σ Result) :=
  within_runOn steady_call runner statement parameters

omit [Database σ] in
theorem steady_nextSession : Steady (nextSession : Action σ Nat) :=
  fun _ => ⟨⟨rfl, rfl, rfl⟩, [], by simp [nextSession], trivial⟩

theorem steady_openSession (database : Value) : Steady (openSession database : Action σ Nat) :=
  within_openSession steady_call steady_nextSession database

/-- The statement and then the summary: the heart of every execution. -/
theorem running_call (runner : Runner) (statement : String) (parameters : Value) (w : World σ) :
    Running runner statement parameters
      ((do let result ← call (.run runner statement parameters)
           let _ ← call .consume
           pure result : Action σ Result).exchanges w)
      ((do let result ← call (.run runner statement parameters)
           let _ ← call .consume
           pure result : Action σ Result).perform w).1 := by
  have asks (c : Call) : Steady (call c : Action σ Result) := asks_call fun _ => trivial
  have tail (result : Result) : Steady (do let _ ← call .consume; pure result : Action σ Result) :=
    (asks _).bind fun _ => within_pure _
  rcases call_cases (.run runner statement parameters) w with ⟨f, v, hp, hx⟩ | ⟨result, v, hp, hx⟩
  · rw [exchanges_bind_error hp, perform_bind_error hp, hx]
    exact .failed f
  · rw [exchanges_bind_ok (asks _) tail hp, perform_bind_ok hp, hx]
    rcases call_cases .consume v with ⟨f, u, hp', hx'⟩ | ⟨summary, u, hp', hx'⟩
    · rw [exchanges_bind_error hp', perform_bind_error hp', hx']
      exact .unfinished result f
    · rw [exchanges_bind_ok (asks _) (fun _ => within_pure _) hp', perform_bind_ok hp', hx',
        exchanges_of_trace rfl]
      exact .finished result summary

theorem running_runOn (runner : Runner) (statement : String) (parameters : Parameters)
    (w : World σ) :
    Running runner statement (.ofParameters parameters)
      ((runOn runner statement (.ofParameters parameters)).exchanges w)
      ((runOn runner statement (.ofParameters parameters)).perform w).1 := by
  obtain ⟨names, hn⟩ := exists_parameterNames parameters
  have kept : (if (Value.ofParameters parameters).truthy then Value.ofParameters parameters
      else .map []) = .ofParameters parameters := by
    cases parameters <;> rfl
  rw [runOn]
  simp only [kept, hn]
  -- Inspecting the parameters and leaving a note asks nothing.
  rw [exchanges_bind_of_trace (perform_ofOutcome _ w) rfl, perform_bind_ok (perform_ofOutcome _ w),
    exchanges_bind_of_trace (perform_note _ _ _ w) rfl, perform_bind_ok (perform_note _ _ _ w)]
  exact running_call runner statement (.ofParameters parameters) _

theorem closeSession_cases (session : Nat) (w : World σ) :
    (∃ fault v, (closeSession session).perform w = (.error (.fault fault), v) ∧
      (closeSession session).exchanges w = [⟨.closeSession session, .error fault⟩]) ∨
    (∃ result v, (closeSession session).perform w = (.ok (), v) ∧
      (closeSession session).exchanges w = [⟨.closeSession session, .ok result⟩]) := by
  have asks : Steady (call (.closeSession session) : Action σ Result) := asks_call fun _ => trivial
  rcases call_cases (.closeSession session) w with ⟨f, v, hp, hx⟩ | ⟨result, v, hp, hx⟩
  · exact .inl ⟨f, v, perform_bind_error hp, (exchanges_bind_error hp).trans hx⟩
  · refine .inr ⟨result, v, perform_bind_ok hp, ?_⟩
    rw [closeSession, exchanges_bind_ok asks (fun _ => within_pure _) hp, hx,
      exchanges_of_trace rfl, List.append_nil]

omit [Database σ] in
theorem perform_current (w : World σ) :
    (current : Action σ Engine).perform w = (.ok w.engine, w) :=
  rfl

omit [Database σ] in
theorem perform_driver (w : World σ) : (driver : Action σ Nat).perform w =
    (match w.engine.link with
      | .up d => .ok d
      | _ => .error (.notConnected w.engine.connection.uri.display), w) := by
  rw [driver, perform_bind_ok (perform_current w)]
  cases w.engine.link <;> rfl

/-- A connected engine asks for a session, and for nothing else. -/
theorem openSession_cases (database : Value) {w : World σ} (hw : w.engine.link.isUp = true) :
    (∃ session name fault v, (openSession database).perform w = (.error (.fault fault), v) ∧
      (openSession database).exchanges w = [⟨.openSession session name, .error fault⟩]) ∨
    (∃ session name result v, (openSession database).perform w = (.ok session, v) ∧
      (openSession database).exchanges w = [⟨.openSession session name, .ok result⟩]) := by
  obtain ⟨d, hd⟩ : ∃ d, (driver : Action σ Nat).perform w = (.ok d, w) := by
    rw [perform_driver]
    cases hl : w.engine.link with
    | up d => exact ⟨d, rfl⟩
    | _ => rw [hl] at hw; cases hw
  -- The number of the session and the database are found without asking.
  let session := w.sessions + 1
  let u : World σ := { w with sessions := session }
  let name := w.engine.databaseOf database
  have named : (nextSession : Action σ Nat).perform w = (.ok session, u) := rfl
  have chosen : (current : Action σ Engine).perform u = (.ok w.engine, u) := perform_current u
  have asks : Steady (call (.openSession session name) : Action σ Result) :=
    asks_call fun _ => trivial
  rw [openSession, perform_bind_ok hd, exchanges_bind_of_trace hd rfl, perform_bind_ok named,
    exchanges_bind_of_trace named rfl, perform_bind_ok chosen, exchanges_bind_of_trace chosen rfl]
  rcases call_cases (.openSession session name) u with ⟨f, v, hp, hx⟩ | ⟨result, v, hp, hx⟩
  · exact .inl ⟨session, name, f, v, perform_bind_error hp, (exchanges_bind_error hp).trans hx⟩
  · refine .inr ⟨session, name, result, v, perform_bind_ok hp, ?_⟩
    rw [exchanges_bind_ok asks (fun _ => within_pure _) hp, hx,
      exchanges_of_trace rfl, List.append_nil]

/-- A connected engine takes one of the courses that go through a session. -/
theorem execution_execute (database : Value) (statement : String) (parameters : Parameters)
    {w : World σ} (hw : w.engine.link.isUp = true) :
    Execution statement (.ofParameters parameters)
      ((execute database statement (.ofParameters parameters)).exchanges w)
      ((execute database statement (.ofParameters parameters)).perform w).1 := by
  have run (session : Nat) :
      Steady (runOn (.session session) statement (.ofParameters parameters) : Action σ Result) :=
    steady_runOn _ _ _
  rcases openSession_cases database hw with ⟨session, name, f, v, hp, hx⟩ |
    ⟨session, name, opened, v, hp, hx⟩
  · rw [execute, exchanges_bind_error hp, perform_bind_error hp, hx]
    exact .unopened session name f
  · have running := running_runOn (.session session) statement parameters v
    rw [execute, exchanges_bind_ok (steady_openSession database)
      (fun n => (run n).ensuring (steady_closeSession n)) hp, perform_bind_ok hp, hx,
      exchanges_ensuring (run session) (steady_closeSession session), perform_ensuring]
    -- The session is closed whatever became of the statement.
    rcases closeSession_cases session
        ((runOn (.session session) statement (.ofParameters parameters)).perform v).2 with
      ⟨f, u, hp', hx'⟩ | ⟨closed, u, hp', hx'⟩
    · rw [hp', hx']
      exact .unclosed name opened f running
    · rw [hp', hx']
      exact .inSession name opened closed running

/-- An engine that is not connected refuses, and asks nothing. -/
theorem execute_of_not_isUp (database : Value) (statement : String) (parameters : Value)
    {w : World σ} (hw : w.engine.link.isUp = false) :
    ∃ e, (execute database statement parameters).perform w = (.error e, w) := by
  have refused : (driver : Action σ Nat).perform w =
      (.error (.notConnected w.engine.connection.uri.display), w) := by
    rw [perform_driver]
    cases hl : w.engine.link with
    | up d => rw [hl] at hw; cases hw
    | _ => rfl
  have unopened : (openSession database).perform w =
      (.error (.notConnected w.engine.connection.uri.display), w) := perform_bind_error refused
  exact ⟨_, perform_bind_error unopened⟩

end Engine

namespace Client

/-- **A client that is ready runs a statement in one of the courses.** -/
theorem execution_execute (statement : String) (parameters : Parameters) {w : World σ}
    (hw : w.Ready) :
    Execution statement (.ofParameters parameters)
      ((execute statement (.ofParameters parameters)).exchanges w)
      ((execute statement (.ofParameters parameters)).perform w).1 := by
  have routed : (activeHandle? : Action σ (Option Nat)).perform w = (.ok w.activeHandle?, w) := rfl
  rw [execute, exchanges_bind_of_trace routed rfl, perform_bind_ok routed]
  unfold World.Ready at hw
  cases hh : w.activeHandle? with
  | none =>
    rw [hh] at hw
    exact Engine.execution_execute .null statement parameters hw
  | some handle =>
    rw [hh] at hw
    obtain ⟨work, hwork⟩ := Option.isSome_iff_exists.mp hw
    -- The active handle was looked up as one of an active transaction.
    have active : (w.transaction handle).phase = .active := by
      have := (Option.filter_eq_some_iff.mp hh).2
      simpa [Transaction.isActive] using this
    have found : (Transaction.get handle : Action σ Transaction).perform w =
      (.ok (w.transaction handle), w) := rfl
    unfold Transaction.run
    rw [exchanges_bind_of_trace found rfl, perform_bind_ok found, active, hwork]
    exact .inTransaction (Engine.running_runOn (.transaction work) statement parameters w)

/-- **A client that is not ready refuses, and asks nothing.** -/
theorem execute_of_not_ready (statement : String) (parameters : Value) {w : World σ}
    (hw : ¬ w.Ready) : ∃ e, (execute statement parameters).perform w = (.error e, w) := by
  have routed : (activeHandle? : Action σ (Option Nat)).perform w = (.ok w.activeHandle?, w) := rfl
  rw [execute, perform_bind_ok routed]
  unfold World.Ready at hw
  cases hh : w.activeHandle? with
  | none =>
    rw [hh] at hw
    exact Engine.execute_of_not_isUp .null statement parameters (by simpa using hw)
  | some handle =>
    rw [hh] at hw
    have none : (w.transaction handle).work? = none := by simpa using hw
    have found : (Transaction.get handle : Action σ Transaction).perform w =
      (.ok (w.transaction handle), w) := rfl
    unfold Transaction.run
    rw [perform_bind_ok found, none]
    cases (w.transaction handle).phase <;> exact ⟨_, rfl⟩

end Client

end GraphMapper
