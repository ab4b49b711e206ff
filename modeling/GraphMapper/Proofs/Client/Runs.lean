import GraphMapper.Proofs.Client.Sound

/-!
# What happens to a client

A client performs operations, is connected and closed, begins transactions, and gives out handles
that its callers go on to use as they like: these are the **events** of a client
(`GraphMapper.Client.Event`). This file follows any row of events from a client that has just been
made.

Two things are kept by every event: the world is sound (`GraphMapper.Client.sound_after`), and the
handle that the client holds on to is the one it gave out last, unless it has been closed since
(`GraphMapper.Client.current_after`). The latter is told from the events and their outcomes alone
(`GraphMapper.Client.begunLast?`). With both, the route of every statement is known: this is
`GraphMapper.Client.routed_after`.
-/

namespace GraphMapper

open GraphMapper.Action

variable {σ : Type}

/-! ### Statements -/

/-- An exchange that runs no statement in a transaction other than that of the route, and ends
none. -/
structure Exchange.On (route : Route) (x : Exchange) : Prop where
  /-- It runs no statement in another transaction. -/
  ran : ∀ work, x.ranIn? = some work → route = .transaction work
  /-- It ends no transaction. -/
  going : x.over? = none

theorem Exchange.Neutral.on {x : Exchange} (h : x.Neutral) (route : Route) : x.On route := by
  refine ⟨fun work ran => ?_, h.2⟩
  rw [h.1] at ran
  cases ran

theorem Running.on {work : Nat} {statement : String} {parameters : Value} {xs : List Exchange}
    {e : Except Failure Result} (h : Running (.transaction work) statement parameters xs e) :
    ∀ x ∈ xs, x.On (.transaction work) := by
  have first (answer : Except Fault Result) :
      Exchange.On (.transaction work) ⟨.run (.transaction work) statement parameters, answer⟩ :=
    ⟨fun _ ran => congrArg _ (Option.some.inj ran), rfl⟩
  have second (answer : Except Fault Result) : Exchange.On (.transaction work) ⟨.consume, answer⟩ :=
    Exchange.Neutral.on ⟨rfl, rfl⟩ _
  cases h <;> simp [first, second]

theorem Course.on {route : Route} {xs : List Exchange} (h : Course route xs) :
    ∀ x ∈ xs, x.On route := by
  cases h with
  | refused => simp
  | inTransaction running => exact running.on
  | unopened session database fault =>
    simp only [List.forall_mem_cons]
    exact ⟨Exchange.Neutral.on ⟨rfl, rfl⟩ _, by simp⟩
  | misused session database opened closed =>
    simp only [List.forall_mem_cons]
    exact ⟨Exchange.Neutral.on ⟨rfl, rfl⟩ _, Exchange.Neutral.on ⟨rfl, rfl⟩ _, by simp⟩
  | inSession opened running closed =>
    simp only [List.forall_mem_cons, List.forall_mem_append]
    exact ⟨Exchange.Neutral.on ⟨rfl, rfl⟩ _,
      fun x hx => (Transaction.neutral_running running x hx).on _,
      Exchange.Neutral.on ⟨rfl, rfl⟩ _, by simp⟩

theorem Courses.on {route : Route} {xs : List Exchange} (h : Courses route xs) :
    ∀ x ∈ xs, x.On route := by
  induction h with
  | nil => simp
  | cons first _ ih => exact List.forall_mem_append.mpr ⟨first.on, ih⟩

namespace World

variable {w v : World σ} {handle : Nat}

theorem Changes.refl (w : World σ) (handle : Nat) : w.Changes w handle [] :=
  ⟨(List.append_nil _).symm, rfl, rfl, fun _ _ => rfl, .of_neutral (by simp)⟩

theorem activeHandle?_eq_some_iff {handle : Nat} : w.activeHandle? = some handle ↔
    w.current? = some handle ∧ (w.transaction handle).isActive = true :=
  Option.filter_eq_some_iff

/-- An active handle was given out. -/
theorem lt_of_isActive (active : (w.transaction handle).isActive = true) :
    handle < w.transactions.length := by
  refine Nat.lt_of_not_le fun le => ?_
  rw [transaction, List.getElem?_eq_none le] at active
  cases active

/-- Statements change nothing but the trace; they may run in what the handle begun last holds. -/
theorem Serves.changes (h : w.Serves v) (settled : ∀ handle, (w.transaction handle).Settled) :
    ∃ xs, w.Changes v (w.current?.getD 0) xs := by
  obtain ⟨xs, leads, numbered, courses⟩ := h
  obtain ⟨route, hr⟩ : ∃ route, w.RoutesTo w.current? route := RoutesTo.exists_of_settled settled
  have same (i : Nat) : v.transaction i = w.transaction i := by
    rw [transaction, transaction, leads.transactions]
  refine ⟨xs, leads.trace, leads.sessions, numbered, fun i _ => same i, ?_⟩
  rw [same]
  refine .stays (fun x hx work ran => ?_) fun x hx => ((courses route hr).on x hx).going
  obtain rfl := ((courses route hr).on x hx).ran work ran
  cases hr with
  | transaction last _ holds =>
    rw [last]
    exact holds

/-! ### Connecting and closing the engine -/

/-- **From one world to another by a new link**: no handle changes, and the exchanges are about
drivers. -/
def Relinks (w v : World σ) : Prop :=
  (v.transactions = w.transactions ∧ v.sessions = w.sessions ∧ v.current? = w.current?) ∧
    ∃ xs, v.trace = w.trace ++ xs ∧ ∀ x ∈ xs, x.Neutral ∧ x.requested? = none

instance : Passing (Relinks (σ := σ)) where
  refl w := ⟨⟨rfl, rfl, rfl⟩, [], (List.append_nil _).symm, by simp⟩
  trans := by
    rintro u v w ⟨⟨ht, hs, hc⟩, xs, hx, neutral⟩ ⟨⟨ht', hs', hc'⟩, ys, hy, neutral'⟩
    refine ⟨⟨ht'.trans ht, hs'.trans hs, hc'.trans hc⟩, xs ++ ys, ?_, ?_⟩
    · rw [hy, hx, List.append_assoc]
    · exact List.forall_mem_append.mpr ⟨neutral, neutral'⟩
  noted w log := ⟨⟨rfl, rfl, rfl⟩, [], (List.append_nil _).symm, by simp⟩
  drawn w identifiers := ⟨⟨rfl, rfl, rfl⟩, [], (List.append_nil _).symm, by simp⟩

theorem Relinks.changes (h : w.Relinks v) (handle : Nat) : ∃ xs, w.Changes v handle xs := by
  obtain ⟨⟨transactions, sessions, -⟩, xs, trace, neutral⟩ := h
  have same (i : Nat) : v.transaction i = w.transaction i := by
    rw [transaction, transaction, transactions]
  have none : xs.filterMap Exchange.requested? = [] :=
    List.filterMap_eq_nil_iff.mpr fun x hx => (neutral x hx).2
  refine ⟨xs, trace, ?_, ?_, fun i _ => same i, ?_⟩
  · rw [sessions, none]
    rfl
  · unfold Transaction.Numbered
    rw [none]
    rfl
  · rw [same]
    exact .of_neutral fun x hx => (neutral x hx).1

end World

variable [Database σ]

namespace Engine

open World

theorem relinks_call {c : Call}
    (hc : ∀ answer, Exchange.Neutral ⟨c, answer⟩ ∧ Exchange.requested? ⟨c, answer⟩ = none) :
    Within Relinks (call c : Action σ Result) :=
  fun _ => ⟨⟨rfl, rfl, rfl⟩, [⟨c, _⟩], rfl, by simp only [List.forall_mem_singleton, hc, and_self]⟩

omit [Database σ] in
theorem relinks_setLink (link : Link) : Within Relinks (setLink link : Action σ Unit) :=
  fun _ => ⟨⟨rfl, rfl, rfl⟩, [], (List.append_nil _).symm, by simp⟩

theorem relinks_openDriver (connection : Connection) :
    Within Relinks (openDriver connection : Action σ Nat) := by
  refine Within.bind (fun _ => ⟨⟨rfl, rfl, rfl⟩, [], (List.append_nil _).symm, by simp⟩)
    fun driver => ?_
  exact (relinks_call fun _ => ⟨⟨rfl, rfl⟩, rfl⟩).bind fun _ =>
    (relinks_call fun _ => ⟨⟨rfl, rfl⟩, rfl⟩).bind fun _ => within_pure _

theorem relinks_connect : Within Relinks (connect : Action σ Unit) := by
  refine (within_get.bind fun _ => within_pure _).bind fun engine => ?_
  split
  · exact within_pure _
  · refine (within_note _ _ _).bind fun _ => (relinks_openDriver _).attempt.bind fun outcome => ?_
    cases outcome with
    | ok driver => exact (relinks_setLink _).bind fun _ => within_note _ _ _
    | error e =>
      exact (relinks_setLink _).bind fun _ => (within_note _ _ _).bind fun _ => within_fail _

theorem relinks_close : Within Relinks (close : Action σ Unit) := by
  refine (within_get.bind fun _ => within_pure _).bind fun engine => ?_
  dsimp only
  split
  · exact within_pure _
  · exact (within_note _ _ _).bind fun _ => (relinks_call fun _ => ⟨⟨rfl, rfl⟩, rfl⟩).bind fun _ =>
      (relinks_setLink _).bind fun _ => within_note _ _ _
  · exact (within_note _ _ _).bind fun _ => (relinks_call fun _ => ⟨⟨rfl, rfl⟩, rfl⟩).bind fun _ =>
      relinks_setLink _

end Engine

/-! ### Clearing the handle begun last -/

/-- **The handle begun last is cleared**: it is idle, and at most one handle has changed for it. -/
structure World.Cleared (w v : World σ) : Prop where
  /-- At most one handle has changed. -/
  changes : ∃ handle xs, w.Changes v handle xs
  /-- The handle begun last is idle. -/
  idle : ∀ handle, w.current? = some handle → (v.transaction handle).isActive = false
  /-- A handle that is active was before. -/
  others : ∀ handle, (v.transaction handle).isActive = true →
    (w.transaction handle).isActive = true
  /-- It is still the one begun last. -/
  current : v.current? = w.current?

omit [Database σ] in
theorem World.Cleared.refl {w : World σ}
    (idle : ∀ handle, w.current? = some handle → (w.transaction handle).isActive = false) :
    w.Cleared w :=
  ⟨⟨0, [], .refl w 0⟩, idle, fun _ active => active, rfl⟩

/-- **What becomes of the handle that statements go through**: there is none, or its transaction is
rolled back, what it holds is released, and it is idle. -/
inductive World.GivesUp (w : World σ) : World σ → Prop where
  /-- There is none. -/
  | idle (none : w.activeHandle? = none) : GivesUp w w
  /-- Its transaction is rolled back. -/
  | rolledBack {handle held : Nat} {v : World σ} (active : w.activeHandle? = some handle)
    (work : (w.transaction handle).work? = some held)
    (session : (w.transaction handle).session? = some held)
    (answer released closed : Except Fault Result)
    (leads : w.Leads v [⟨.rollback held, answer⟩, ⟨.closeTransaction held, released⟩,
      ⟨.closeSession held, closed⟩] (w.transactions.set handle (w.transaction handle).released)) :
    GivesUp w v

omit [Database σ] in
theorem World.GivesUp.cleared {w v : World σ} (h : w.GivesUp v) : w.Cleared v := by
  cases h with
  | idle none =>
    refine .refl fun handle last => ?_
    rw [World.activeHandle?, last, Option.filter_some] at none
    simpa using none
  | @rolledBack handle held v active work session answer released closed leads =>
    obtain ⟨last, active⟩ := World.activeHandle?_eq_some_iff.mp active
    have hh := World.lt_of_isActive active
    have turn : Transaction.Turn (w.transaction handle) (w.sessions + 1) .rollback (.ok ())
        [⟨.rollback held, answer⟩, ⟨.closeTransaction held, released⟩, ⟨.closeSession held, closed⟩]
        (w.transaction handle).released :=
          .ended rfl work session answer released closed reported_ok
    have left := Transaction.transaction_set_self hh leads.transactions
    have change := turn.changes hh leads
    refine ⟨⟨handle, _, change⟩, fun i hi => ?_, fun i hi => ?_, leads.current⟩
    · obtain rfl := Option.some.inj (last.symm.trans hi)
      rw [left]
      rfl
    · by_cases same : i = handle
      · exact same ▸ active
      · rwa [change.others i same] at hi

namespace Transaction

/-- Rolling back the handle that statements go through gives it up, whatever the driver says. -/
theorem givesUp_rollback {handle : Nat} {w : World σ} (settled : (w.transaction handle).Settled)
    (active : w.activeHandle? = some handle) (log : List LogEntry) :
    w.GivesUp ((rollback handle).perform { w with log }).2 := by
  let u : World σ := { w with log }
  obtain ⟨held, phase, work, session⟩ : ∃ held, (u.transaction handle).phase = .active ∧
      (u.transaction handle).work? = some held ∧ (u.transaction handle).session? = some held := by
    have settled : (u.transaction handle).Settled := settled
    have active : (u.transaction handle).isActive = true :=
      (World.activeHandle?_eq_some_iff.mp active).2
    generalize u.transaction handle = t at settled active
    cases settled with
    | idle => cases active
    | active _ held => exact ⟨held, rfl, rfl, rfl⟩
  have isCall (n session : Nat) (database : Value) :
      Call.rollback n ≠ .openSession session database := nofun
  obtain ⟨answer, released, closed, -, leads⟩ :=
    leads_finish isCall phase work session .nothingToRollBack "Transaction rolled back"
  exact .rolledBack active work session answer released closed leads.of_noted

theorem perform_close_idle {handle : Nat} {w : World σ}
    (idle : (w.transaction handle).isActive = false) : (close handle).perform w = (.ok (), w) := by
  rw [close, perform_bind_ok (perform_get handle w), if_neg (by simp [idle])]
  rfl

end Transaction

namespace Client

/-- What is done before another transaction is begun: the one that is active is rolled back. -/
def clear : Action σ Unit := do
  if let some handle ← activeHandle? then
    note .warning .client
      "Beginning a new transaction while one is active; rolling back the previous one"
    Transaction.rollback handle

/-- A new handle with a transaction begun; its number. -/
def beginNew : Action σ Nat := do
  let database := (← Engine.current).database
  let session ← Transaction.openWork database
  let idle : Transaction := { database }
  let handle ← Transaction.create (idle.begun session)
  Transaction.noteBegun
  setCurrent (some handle)
  pure handle

theorem beginTransaction_eq :
    (beginTransaction : Action σ Nat) = (do clear; beginNew) := by
  unfold beginTransaction clear beginNew
  simp only [bind_assoc]
  refine bind_congr fun handle? => ?_
  cases handle? with
  | none => simp
  | some handle => simp only [bind_assoc]

theorem givesUp_clear {w : World σ} (settled : ∀ handle, (w.transaction handle).Settled) :
    w.GivesUp ((clear : Action σ Unit).perform w).2 := by
  have looked : (activeHandle? : Action σ (Option Nat)).perform w = (.ok w.activeHandle?, w) := rfl
  rw [clear, perform_bind_ok looked]
  cases chosen : w.activeHandle? with
  | none => exact .idle chosen
  | some handle =>
    dsimp only
    rw [perform_bind_ok (perform_note _ _ _ w)]
    exact Transaction.givesUp_rollback (settled handle) chosen _

/-- What beginning another transaction comes to: none is begun, and all handles are as they were,
or there is a new handle, which statements go through. -/
theorem beginNew_cases (w : World σ) : ∃ xs,
    w.Changes ((beginNew : Action σ Nat).perform w).2 w.transactions.length xs ∧
    ((∃ f, ((beginNew : Action σ Nat).perform w).1 = .error f) ∧
        ((beginNew : Action σ Nat).perform w).2.transactions = w.transactions ∧
        ((beginNew : Action σ Nat).perform w).2.current? = w.current? ∨
      ((beginNew : Action σ Nat).perform w).1 = .ok w.transactions.length ∧
        ((beginNew : Action σ Nat).perform w).2.activeHandle? =
          some w.transactions.length) := by
  have start : (beginNew : Action σ Nat).perform w = (do
      let session ← Transaction.openWork w.engine.database
      let handle ← Transaction.create
        ((⟨w.engine.database, .idle, none, none⟩ : Transaction).begun session)
      Transaction.noteBegun
      setCurrent (some handle)
      pure handle : Action σ Nat).perform w := perform_bind_ok (Engine.perform_current w)
  rw [start]
  obtain ⟨e, v, xs, hp, opening, leads⟩ := Transaction.opening_openWork w.engine.database w
  have others (i : Nat) : v.transaction i = w.transaction i := by
    rw [World.transaction, World.transaction, leads.transactions]
  cases e with
  | error f =>
    rw [perform_bind_error hp]
    refine ⟨xs, ⟨leads.trace, leads.sessions, opening.numbered, fun i _ => others i, ?_⟩,
      .inl ⟨⟨f, rfl⟩, leads.transactions, leads.current⟩⟩
    dsimp only
    rw [others]
    exact .of_neutral opening.neutral
  | ok session =>
    obtain rfl : session = w.sessions + 1 := by cases opening; rfl
    let t : Transaction :=
      ⟨w.engine.database, .active, some (w.sessions + 1), some (w.sessions + 1)⟩
    -- The new handle is added behind the others.
    obtain ⟨log, rest⟩ : ∃ log, (do
        let handle ← Transaction.create t
        Transaction.noteBegun
        setCurrent (some handle)
        pure handle : Action σ Nat).perform v =
        (.ok v.transactions.length, { v with
          transactions := v.transactions ++ [t], log, current? := some v.transactions.length }) :=
      ⟨_, rfl⟩
    have given : (do
        let session ← Transaction.openWork w.engine.database
        let handle ← Transaction.create
          ((⟨w.engine.database, .idle, none, none⟩ : Transaction).begun session)
        Transaction.noteBegun
        setCurrent (some handle)
        pure handle : Action σ Nat).perform w = _ := (perform_bind_ok hp).trans rest
    rw [given, leads.transactions]
    have added : (w.transactions ++ [t])[w.transactions.length]? = some t :=
      List.getElem?_concat_length
    refine ⟨xs, ⟨leads.trace, leads.sessions, opening.numbered, fun i hi => ?_, ?_⟩,
      .inr ⟨rfl, World.activeHandle?_eq_some_iff.mpr ⟨rfl, ?_⟩⟩⟩
    · unfold World.transaction
      dsimp only
      rcases Nat.lt_or_ge i w.transactions.length with lt | ge
      · rw [List.getElem?_append_left lt]
      · rw [List.getElem?_eq_none ge, List.getElem?_eq_none]
        rw [List.length_append, List.length_singleton]
        omega
    · have unused : w.transaction w.transactions.length = {} := by
        rw [World.transaction, List.getElem?_eq_none (le_refl _)]
        rfl
      rw [unused, World.transaction]
      dsimp only
      rw [added]
      exact .begins _ rfl opening.requested? opening.neutral
    · unfold World.transaction
      dsimp only
      rw [added]
      rfl

/-- **Beginning a transaction**: the handle that statements go through is given up, and then they
go through a new handle, or no handle has changed any further. -/
theorem beginTransaction_cases {w : World σ} (settled : ∀ handle, (w.transaction handle).Settled) :
    ∃ u xs, w.GivesUp u ∧
      u.Changes ((beginTransaction : Action σ Nat).perform w).2 u.transactions.length xs ∧
      ((∃ f, ((beginTransaction : Action σ Nat).perform w).1 = .error f) ∧
          ((beginTransaction : Action σ Nat).perform w).2.transactions = u.transactions ∧
          ((beginTransaction : Action σ Nat).perform w).2.current? = w.current? ∨
        ((beginTransaction : Action σ Nat).perform w).1 = .ok u.transactions.length ∧
          ((beginTransaction : Action σ Nat).perform w).2.activeHandle? =
            some u.transactions.length) := by
  have givesUp := givesUp_clear settled
  rw [beginTransaction_eq]
  rcases h : (clear : Action σ Unit).perform w with ⟨f | _, u⟩
  · rw [h] at givesUp
    rw [perform_bind_error h]
    exact ⟨u, [], givesUp, .refl u _, .inl ⟨⟨f, rfl⟩, rfl, givesUp.cleared.current⟩⟩
  · rw [h] at givesUp
    rw [perform_bind_ok h]
    obtain ⟨xs, change, outcome⟩ := beginNew_cases u
    rw [givesUp.cleared.current] at outcome
    exact ⟨u, xs, givesUp, change, outcome⟩

/-- **Closing the client**: the handle that statements go through is given up, and then the engine
is closed, with no handle begun last. -/
theorem close_cases {w : World σ} (settled : ∀ handle, (w.transaction handle).Settled) :
    ∃ u, w.GivesUp u ∧ ((close : Action σ Unit).perform w).2 =
      ((Engine.close : Action σ Unit).perform { u with current? := none }).2 := by
  unfold close
  rw [perform_ensuring_snd]
  refine ⟨_, ?_, rfl⟩
  rw [perform_bind_ok (perform_get w)]
  cases last : w.current? with
  | none => exact .idle (by rw [World.activeHandle?, last]; rfl)
  | some handle =>
    dsimp only
    cases active : (w.transaction handle).isActive with
    | false =>
      rw [Transaction.perform_close_idle active]
      exact .idle (by rw [World.activeHandle?, last, Option.filter_some, active]; rfl)
    | true =>
      rw [Transaction.close, perform_bind_ok (Transaction.perform_get handle w), if_pos active]
      exact Transaction.givesUp_rollback (settled handle)
        (World.activeHandle?_eq_some_iff.mpr ⟨last, active⟩) _

/-! ### Events -/

/-- What a client can be asked to do for a caller. -/
inductive Job where
  /-- Perform an operation, with the types of a catalog. -/
  | perform (catalog : Catalog) (operation : Operation)
  /-- Find out whether the database answers. -/
  | ping (catalog : Catalog)

/-- The action of a job. -/
def Job.action : Job → Action σ Value
  | perform catalog operation => Client.perform catalog operation
  | ping catalog => Client.ping catalog

/-- **What can happen to a client.** -/
inductive Event where
  /-- It does a job. -/
  | job (job : Job)
  /-- It is connected. -/
  | connect
  /-- It begins a transaction, and gives out the handle. -/
  | begin
  /-- A handle is used that it has given out. -/
  | move (handle : Nat) (move : Transaction.Move)
  /-- It is closed. -/
  | close
  /-- Time passes. -/
  | wait (clock : Float)

/-- The action of an event, and the handle that is given out. A handle that was never given out
cannot be used. -/
def Event.action : Event → Action σ (Option Nat)
  | job j => do let _ ← j.action; pure none
  | connect => do Engine.connect; pure none
  | begin => do pure (some (← beginTransaction))
  | move handle m => do
    let w ← get
    if handle < w.transactions.length then m.action handle
    pure none
  | close => do Client.close; pure none
  | wait clock => do modify fun w => { w with clock }; pure none

/-- The world after an event, whether it fails or not. -/
def step (w : World σ) (event : Event) : World σ := (event.action.perform w).2

/-- The world after some events. -/
def after (events : List Event) (w : World σ) : World σ := events.foldl step w

/-- Some events, each with its outcome. -/
def history (w : World σ) : List Event → List (Event × Except Failure (Option Nat))
  | [] => []
  | event :: rest => (event, (event.action.perform w).1) :: history (step w event) rest

/-- The handle that counts as begun last after an event: the one given out, if it begins a
transaction, and none if it closes the client. -/
def begunBy? (last? : Option Nat) : Event × Except Failure (Option Nat) → Option Nat
  | (.begin, .ok given?) => given?
  | (.close, _) => none
  | _ => last?

/-- **The handle begun last** in a history, unless the client was closed since. -/
def begunLast? (history : List (Event × Except Failure (Option Nat))) : Option Nat :=
  history.foldl begunBy? none

omit [Database σ] in
theorem perform_then_none {α : Type} (a : Action σ α) (w : World σ) :
    ((do let _ ← a; pure none : Action σ (Option Nat)).perform w).2 = (a.perform w).2 := by
  rw [perform_bind]
  rcases a.perform w with ⟨_ | _, _⟩ <;> rfl

theorem serves_job (job : Job) : Within World.Serves (job.action : Action σ Value) := by
  cases job with
  | perform catalog operation => exact serves_perform catalog operation
  | ping catalog => exact serves_send catalog _

theorem step_job (job : Job) (w : World σ) : step w (.job job) = (job.action.perform w).2 :=
  perform_then_none _ w

theorem step_connect (w : World σ) :
    step w .connect = ((Engine.connect : Action σ Unit).perform w).2 :=
  perform_then_none _ w

theorem step_close (w : World σ) : step w .close = ((close : Action σ Unit).perform w).2 :=
  perform_then_none _ w

theorem step_begin (w : World σ) :
    step w .begin = ((beginTransaction : Action σ Nat).perform w).2 := by
  rw [step, Event.action, perform_bind]
  rcases (beginTransaction : Action σ Nat).perform w with ⟨_ | _, _⟩ <;> rfl

theorem step_move {handle : Nat} {w : World σ} (hh : handle < w.transactions.length)
    (m : Transaction.Move) : step w (.move handle m) = ((m.action handle).perform w).2 := by
  rw [step, Event.action, perform_bind_ok (perform_get w), if_pos hh]
  exact perform_then_none _ w

theorem step_move_unknown {handle : Nat} {w : World σ} (hh : ¬ handle < w.transactions.length)
    (m : Transaction.Move) : step w (.move handle m) = w := by
  rw [step, Event.action, perform_bind_ok (perform_get w), if_neg hh]
  rfl

/-- **Every event leaves a sound world sound.** -/
theorem sound_step {w : World σ} (h : w.Sound) (event : Event) : (step w event).Sound := by
  cases event with
  | job job =>
    rw [step_job]
    obtain ⟨xs, change⟩ := (serves_job job w).changes h.settled
    exact h.change change
  | connect =>
    rw [step_connect]
    obtain ⟨xs, change⟩ := (Engine.relinks_connect w).changes 0
    exact h.change change
  | begin =>
    rw [step_begin]
    obtain ⟨u, xs, givesUp, change, -⟩ := beginTransaction_cases h.settled
    obtain ⟨_, _, first⟩ := givesUp.cleared.changes
    exact (h.change first).change change
  | move handle m =>
    by_cases hh : handle < w.transactions.length
    · rw [step_move hh]
      obtain ⟨xs, t, turn, leads, -⟩ := Transaction.takesTurn_action (h.settled handle) hh m
      exact h.change (turn.changes hh leads)
    · rwa [step_move_unknown hh]
  | close =>
    rw [step_close]
    obtain ⟨u, givesUp, done⟩ := close_cases h.settled
    obtain ⟨_, _, first⟩ := givesUp.cleared.changes
    rw [done]
    obtain ⟨_, second⟩ := (Engine.relinks_close { u with current? := none }).changes 0
    exact (h.change first).forget.change second
  | wait clock => exact ⟨h.settled, h.numbered, h.sessions, h.apart, h.held, h.past, h.inTime⟩

/-- The client holds on to the handle begun last. -/
theorem current_step {w : World σ} (h : w.Sound) (event : Event) :
    (step w event).current? = begunBy? w.current? (event, (event.action.perform w).1) := by
  cases event with
  | job job =>
    rw [step_job]
    obtain ⟨xs, leads, -⟩ := serves_job job w
    exact leads.current
  | connect =>
    rw [step_connect]
    exact (Engine.relinks_connect w).1.2.2
  | begin =>
    rw [step_begin]
    have outcome : (Event.begin.action.perform w).1 =
        ((beginTransaction : Action σ Nat).perform w).1.map some := by
      rw [Event.action, perform_bind]
      rcases (beginTransaction : Action σ Nat).perform w with ⟨_ | _, _⟩ <;> rfl
    rw [outcome]
    obtain ⟨u, xs, -, -, ⟨⟨f, failed⟩, -, current⟩ | ⟨given, active⟩⟩ :=
      beginTransaction_cases h.settled
    · rw [failed, current]
      rfl
    · rw [given, (World.activeHandle?_eq_some_iff.mp active).1]
      rfl
  | move handle m =>
    by_cases hh : handle < w.transactions.length
    · rw [step_move hh]
      obtain ⟨xs, t, turn, leads, -⟩ := Transaction.takesTurn_action (h.settled handle) hh m
      exact leads.current
    · rw [step_move_unknown hh]
      rfl
  | close =>
    rw [step_close]
    obtain ⟨u, -, done⟩ := close_cases h.settled
    rw [done]
    exact (Engine.relinks_close { u with current? := none }).1.2.2
  | wait clock => rfl

/-- **Soundness is kept by any events.** -/
theorem sound_after {w : World σ} (h : w.Sound) (events : List Event) : (after events w).Sound := by
  induction events generalizing w with
  | nil => exact h
  | cons event rest ih => exact ih (sound_step h event)

/-- **The client holds on to the handle begun last**, after any events. -/
theorem current_after {w : World σ} (h : w.Sound) (events : List Event) :
    (after events w).current? = (history w events).foldl begunBy? w.current? := by
  induction events generalizing w with
  | nil => rfl
  | cons event rest ih =>
    have := ih (sound_step h event)
    rw [current_step h] at this
    exact this

/-! ### From the start -/

/-- A client that has just been made: nothing has been asked, and no handle given out. -/
def opened (database : σ) (engine : Engine) (clock : Float) (identifiers : IdentifierSource)
    (stripHyphens : Value) : World σ :=
  { database, engine, clock, identifiers, stripHyphens }

/-- **The routing of statements.** After any events from the start, and with whatever the driver
answers, the statements of a job – its own, and those that look up what nodes are related to – run
one after the other in the transaction of the handle begun last, if it is active, and otherwise
each in a session of its own on the database of the engine, which is closed before anything else
is asked. The job changes no handle; no session is used twice; and no statement is ever run in a
transaction that was committed, rolled back or closed. -/
theorem routed_after (database : σ) (engine : Engine) (clock : Float)
    (identifiers : IdentifierSource) (stripHyphens : Value) (events : List Event) (job : Job) :
    let start := opened database engine clock identifiers stripHyphens
    let w := after events start
    let v := step w (.job job)
    (∃ route xs, w.RoutesTo (begunLast? (history start events)) route ∧
        v.trace = w.trace ++ xs ∧ Courses route xs) ∧
      w.SameClient v ∧ (v.trace.filterMap Exchange.requested?).Nodup ∧ InTime v.trace := by
  intro start w v
  have fresh : start.Sound := .of_fresh rfl rfl rfl
  have sound : w.Sound := sound_after fresh events
  have last : w.current? = begunLast? (history start events) := current_after fresh events
  obtain ⟨xs, leads, -, courses⟩ := serves_job job w
  obtain ⟨route, hr⟩ : ∃ route, w.RoutesTo w.current? route :=
    World.RoutesTo.exists_of_settled sound.settled
  have done : v = (job.action.perform w).2 := step_job job w
  have sound' : v.Sound := sound_step sound (.job job)
  rw [← done] at leads
  refine ⟨⟨route, xs, last ▸ hr, leads.trace, courses route hr⟩, leads.sameClient, ?_,
    sound'.inTime⟩
  rw [sound'.numbered]
  exact List.nodup_range'

end Client

end GraphMapper
