import GraphMapper.Proofs.Execution

/-!
# What an engine does, errand by errand

Three things are asked of an engine from outside: to connect, to close, and to open a session.
This file follows any row of such **errands** (`GraphMapper.Engine.Errand`), one after the other,
with whatever the driver answers.

`GraphMapper.Engine.Way` lists the ways in which an errand can go, each with the link that it
finds, the exchanges that it makes, its outcome, and the link that it leaves;
`GraphMapper.Engine.served` says that there are no others. No way leaves a driver that has not
been checked, so none finds one (`GraphMapper.Engine.checked_after`). Everything else is read off
the ways:

* whether the engine is connected is told from the outcomes alone, by the last errand that changed
  it (`GraphMapper.Engine.isUp_after`);
* as long as nothing is closed, the connects on an engine that is not connected fail one after the
  other until one succeeds, and those behind it ask for nothing
  (`GraphMapper.Engine.batch_history`).
-/

namespace GraphMapper

open GraphMapper.Action

variable {σ : Type}

namespace Engine

/-- What can be asked of an engine from outside. -/
inductive Errand where
  /-- To connect. -/
  | connect
  /-- To close. -/
  | close
  /-- To open a session on a database. -/
  | openSession (database : Value)

/-- An errand that has been done. -/
structure Service where
  /-- The errand. -/
  errand : Errand
  /-- The exchanges that it made. -/
  asked : List Exchange
  /-- Its outcome, with the session that was opened. -/
  outcome : Except Failure (Option Nat)

/-! ### The ways of an errand -/

/-- **The ways in which an errand can go** on an engine that has asked for so many drivers before:
the link that it finds, what is done, and the link that it leaves. -/
inductive Way (drivers : Nat) : Link → Service → Link → Prop where
  /-- A connected engine is connected: nothing is asked. -/
  | found (d : Nat) : Way drivers (.up d) ⟨.connect, [], .ok none⟩ (.up d)
  /-- A driver is created and checked. -/
  | connected (connection : Connection) (created verified : Result) :
    Way drivers .down
      ⟨.connect, [⟨.openDriver (drivers + 1) connection, .ok created⟩,
        ⟨.verify (drivers + 1), .ok verified⟩], .ok none⟩
      (.up (drivers + 1))
  /-- A driver cannot be created. -/
  | uncreated (connection : Connection) (uri : String) (fault : Fault) :
    Way drivers .down
      ⟨.connect, [⟨.openDriver (drivers + 1) connection, .error fault⟩],
        .error (.connectionFailed uri fault.message)⟩
      .down
  /-- A driver is created, but does not reach the database. -/
  | unverified (connection : Connection) (uri : String) (created : Result) (fault : Fault) :
    Way drivers .down
      ⟨.connect, [⟨.openDriver (drivers + 1) connection, .ok created⟩,
        ⟨.verify (drivers + 1), .error fault⟩], .error (.connectionFailed uri fault.message)⟩
      .down
  /-- There is nothing to close. -/
  | idle : Way drivers .down ⟨.close, [], .ok none⟩ .down
  /-- The driver is closed. -/
  | closed (d : Nat) (result : Result) :
    Way drivers (.up d) ⟨.close, [⟨.closeDriver d, .ok result⟩], .ok none⟩ .down
  /-- The driver cannot be closed, and is kept. -/
  | unclosed (d : Nat) (fault : Fault) :
    Way drivers (.up d) ⟨.close, [⟨.closeDriver d, .error fault⟩], .error (.fault fault)⟩ (.up d)
  /-- An engine that is not connected has no sessions. -/
  | refused (database : Value) (uri : String) :
    Way drivers .down ⟨.openSession database, [], .error (.notConnected uri)⟩ .down
  /-- A session is opened. -/
  | opened (d session : Nat) (database name : Value) (result : Result) :
    Way drivers (.up d)
      ⟨.openSession database, [⟨.openSession session name, .ok result⟩], .ok (some session)⟩ (.up d)
  /-- The driver does not open the session. -/
  | unopened (d session : Nat) (database name : Value) (fault : Fault) :
    Way drivers (.up d)
      ⟨.openSession database, [⟨.openSession session name, .error fault⟩], .error (.fault fault)⟩
      (.up d)

end Engine

/-- The driver that is asked for. -/
def Exchange.driver? (x : Exchange) : Option Nat :=
  match x.call with
  | .openDriver driver _ => some driver
  | _ => none

namespace Engine

/-- How many drivers were asked for. -/
def Service.attempts (s : Service) : Nat := (s.asked.filterMap Exchange.driver?).length

/-- From one world to another by an errand: it goes one of the ways, its exchanges are added to
the trace, and the drivers that it asks for are counted. -/
structure Served (w v : World σ) (s : Service) : Prop where
  /-- It goes one of the ways. -/
  way : Way w.drivers w.engine.link s v.engine.link
  /-- Its exchanges are added to the trace. -/
  trace : v.trace = w.trace ++ s.asked
  /-- The drivers it asks for are counted. -/
  drivers : v.drivers = w.drivers + s.attempts

variable [Database σ]

namespace Errand

/-- An errand as an action, with the session that it opens. -/
def action : Errand → Action σ (Option Nat)
  | connect => do
    Engine.connect
    pure none
  | close => do
    Engine.close
    pure none
  | openSession database => do pure (some (← Engine.openSession database))

/-- The world that an errand leaves. -/
def next (errand : Errand) (w : World σ) : World σ := (errand.action.perform w).2

/-- What is done for an errand. -/
def service (errand : Errand) (w : World σ) : Service :=
  ⟨errand, errand.action.exchanges w, (errand.action.perform w).1⟩

end Errand

/-- What is done for errands, one after the other. -/
def history (w : World σ) : List Errand → List Service
  | [] => []
  | errand :: rest => errand.service w :: history (errand.next w) rest

/-- The world that errands leave, one after the other. -/
def after (w : World σ) (errands : List Errand) : World σ :=
  errands.foldl (fun v errand => errand.next v) w

/-! ### Each errand goes one of the ways -/

theorem served_of_perform {w v : World σ} {errand : Errand} {outcome : Except Failure (Option Nat)}
    {xs : List Exchange} (h : errand.action.perform w = (outcome, v))
    (trace : v.trace = w.trace ++ xs)
    (way : Way w.drivers w.engine.link ⟨errand, xs, outcome⟩ v.engine.link)
    (drivers : v.drivers = w.drivers + (xs.filterMap Exchange.driver?).length) :
    Served w (errand.next w) (errand.service w) := by
  have asked : errand.action.exchanges w = xs := by rw [exchanges, h, trace, List.drop_left]
  unfold Errand.next Errand.service
  rw [asked, h]
  exact ⟨way, trace, drivers⟩

/-- A call changes nothing but the database and the trace. -/
theorem perform_call (c : Call) (w : World σ) : ∃ answer database,
    (call c).perform w = (answer.mapError .fault,
      { w with database, trace := w.trace ++ [⟨c, answer⟩] }) :=
  ⟨_, _, rfl⟩

/-- A driver is created and checked, unless the one or the other fails. -/
theorem openDriver_cases (connection : Connection) (w : World σ) : ∃ database outcome xs,
    (openDriver connection).perform w =
      (outcome, { w with database, drivers := w.drivers + 1, trace := w.trace ++ xs }) ∧
    ((∃ created verified, outcome = .ok (w.drivers + 1) ∧
        xs = [⟨.openDriver (w.drivers + 1) connection, .ok created⟩,
          ⟨.verify (w.drivers + 1), .ok verified⟩]) ∨
      ∃ fault, outcome = .error (.fault fault) ∧
        (xs = [⟨.openDriver (w.drivers + 1) connection, .error fault⟩] ∨
          ∃ created, xs = [⟨.openDriver (w.drivers + 1) connection, .ok created⟩,
            ⟨.verify (w.drivers + 1), .error fault⟩])) := by
  let u : World σ := { w with drivers := w.drivers + 1 }
  have numbered : (nextDriver : Action σ Nat).perform w = (.ok (w.drivers + 1), u) := rfl
  rw [openDriver, perform_bind_ok numbered]
  obtain ⟨created, database, hc⟩ := perform_call (.openDriver (w.drivers + 1) connection) u
  cases created with
  | error fault => exact ⟨_, _, _, perform_bind_error hc, .inr ⟨fault, rfl, .inl rfl⟩⟩
  | ok created =>
    rw [perform_bind_ok hc]
    obtain ⟨verified, database, hv⟩ := perform_call (.verify (w.drivers + 1))
      { u with
        database, trace := u.trace ++ [⟨.openDriver (w.drivers + 1) connection, .ok created⟩] }
    cases verified with
    | error fault =>
      refine ⟨database, _, _, (perform_bind_error hv).trans ?_,
        .inr ⟨fault, rfl, .inr ⟨created, rfl⟩⟩⟩
      rw [List.append_assoc]
      rfl
    | ok verified =>
      refine ⟨database, _, _, (perform_bind_ok hv).trans ?_, .inl ⟨created, verified, rfl, rfl⟩⟩
      rw [List.append_assoc]
      rfl

theorem served_connect {w : World σ} (checked : ∀ d, w.engine.link ≠ .unverified d) :
    Served w (Errand.connect.next w) (Errand.connect.service w) := by
  cases hl : w.engine.link with
  | unverified d => exact absurd hl (checked d)
  | up d =>
    have found : (connect : Action σ Unit).perform w = (.ok (), w) := by
      rw [connect, perform_bind_ok (perform_current w), hl]
      rfl
    refine served_of_perform (perform_bind_ok found) (List.append_nil _).symm ?_ rfl
    rw [hl]
    exact .found d
  | down =>
    let uri := w.engine.connection.uri.display
    -- The note of the attempt is left first.
    obtain ⟨log, rest, start, connected, refused⟩ :
        ∃ log, ∃ rest : Except Failure Nat → Action σ Unit,
        (connect : Action σ Unit).perform w =
          (attempt (openDriver w.engine.connection) >>= rest).perform { w with log } ∧
        (∀ driver, rest (.ok driver) = do
          setLink (.up driver)
          note .info ("Successfully connected to " ++ uri ++ ".")) ∧
        ∀ e, rest (.error e) = (do
          setLink .down
          note .error ("Connection to " ++ uri ++ " failed: " ++ e.message)
          fail (.connectionFailed uri e.message)) := by
      rw [connect, perform_bind_ok (perform_current w), hl]
      exact ⟨_, _, perform_bind_ok (perform_note _ _ _ w), fun _ => rfl, fun _ => rfl⟩
    obtain ⟨database, outcome, xs, hp, cases⟩ :=
      openDriver_cases w.engine.connection { w with log }
    have attempted : (attempt (openDriver w.engine.connection)).perform { w with log } =
        (.ok outcome, { w with
          log, database, drivers := w.drivers + 1, trace := w.trace ++ xs }) := by
      rw [attempt, perform_ofStep, hp]
    rw [perform_bind_ok attempted] at start
    rcases cases with ⟨created, verified, rfl, rfl⟩ | ⟨fault, rfl, rfl | ⟨created, rfl⟩⟩
    · rw [connected] at start
      refine served_of_perform (perform_bind_ok start) rfl ?_ rfl
      rw [hl]
      exact .connected _ _ _
    · rw [refused] at start
      refine served_of_perform (perform_bind_error start) rfl ?_ rfl
      rw [hl]
      exact .uncreated _ _ _
    · rw [refused] at start
      refine served_of_perform (perform_bind_error start) rfl ?_ rfl
      rw [hl]
      exact .unverified _ _ _ _

theorem served_close {w : World σ} (checked : ∀ d, w.engine.link ≠ .unverified d) :
    Served w (Errand.close.next w) (Errand.close.service w) := by
  cases hl : w.engine.link with
  | unverified d => exact absurd hl (checked d)
  | down =>
    have idle : (close : Action σ Unit).perform w = (.ok (), w) := by
      rw [close, perform_bind_ok (perform_current w), hl]
      rfl
    refine served_of_perform (perform_bind_ok idle) (List.append_nil _).symm ?_ rfl
    rw [hl]
    exact .idle
  | up d =>
    let uri := w.engine.connection.uri.display
    obtain ⟨log, start⟩ : ∃ log, (close : Action σ Unit).perform w = (do
        let _ ← call (.closeDriver d)
        setLink .down
        note .info ("Connection to " ++ uri ++ " closed.") : Action σ Unit).perform
          { w with log } := by
      rw [close, perform_bind_ok (perform_current w), hl]
      exact ⟨_, perform_bind_ok (perform_note _ _ _ w)⟩
    obtain ⟨answer, database, hc⟩ := perform_call (.closeDriver d) { w with log }
    cases answer with
    | error fault =>
      rw [perform_bind_error hc] at start
      refine served_of_perform (perform_bind_error start) rfl ?_ rfl
      dsimp only
      rw [hl]
      exact .unclosed d fault
    | ok result =>
      rw [perform_bind_ok hc] at start
      refine served_of_perform (perform_bind_ok start) rfl ?_ rfl
      rw [hl]
      exact .closed d result

theorem served_openSession (database : Value) {w : World σ}
    (checked : ∀ d, w.engine.link ≠ .unverified d) :
    Served w ((Errand.openSession database).next w) ((Errand.openSession database).service w) := by
  have driven := perform_driver w
  cases hl : w.engine.link with
  | unverified d => exact absurd hl (checked d)
  | down =>
    rw [hl] at driven
    have refused := perform_bind_error driven (f := fun _ => do
      let session ← nextSession
      let _ ← call (.openSession session ((← current).databaseOf database))
      pure session)
    refine served_of_perform (perform_bind_error refused) (List.append_nil _).symm ?_ rfl
    rw [hl]
    exact .refused _ _
  | up d =>
    rw [hl] at driven
    let session := w.sessions + 1
    let name := w.engine.databaseOf database
    have start : (openSession database).perform w = (do
        let _ ← call (.openSession session name)
        pure session : Action σ Nat).perform { w with sessions := session } := by
      rw [openSession, perform_bind_ok driven]
      rfl
    obtain ⟨answer, database', hc⟩ :=
      perform_call (.openSession session name) { w with sessions := session }
    cases answer with
    | error fault =>
      rw [perform_bind_error hc] at start
      refine served_of_perform (perform_bind_error start) rfl ?_ rfl
      dsimp only
      rw [hl]
      exact .unopened d session database name fault
    | ok result =>
      rw [perform_bind_ok hc] at start
      refine served_of_perform (perform_bind_ok start) rfl ?_ rfl
      dsimp only
      rw [hl]
      exact .opened d session database name result

/-- **Every errand goes one of the ways**, on an engine without a driver that has not been
checked. -/
theorem served {w : World σ} (checked : ∀ d, w.engine.link ≠ .unverified d) (errand : Errand) :
    Served w (errand.next w) (errand.service w) := by
  cases errand with
  | connect => exact served_connect checked
  | close => exact served_close checked
  | openSession database => exact served_openSession database checked

/-! ### Any row of errands -/

omit [Database σ] in
theorem Way.checked {drivers : Nat} {l l' : Link} {s : Service} (h : Way drivers l s l') (d : Nat) :
    l' ≠ .unverified d := by
  cases h <;> exact Link.noConfusion

/-- No driver is ever held that has not been checked. -/
theorem checked_after {w : World σ} (checked : ∀ d, w.engine.link ≠ .unverified d)
    (errands : List Errand) (d : Nat) : (after w errands).engine.link ≠ .unverified d := by
  induction errands generalizing w with
  | nil => exact checked d
  | cons errand rest ih => exact ih (served checked errand).way.checked

theorem after_append (w : World σ) (errands more : List Errand) :
    after w (errands ++ more) = after (after w errands) more :=
  List.foldl_append

theorem history_append (w : World σ) (errands more : List Errand) :
    history w (errands ++ more) = history w errands ++ history (after w errands) more := by
  induction errands generalizing w with
  | nil => rfl
  | cons errand rest ih =>
    rw [List.cons_append, history, history, ih, List.cons_append]
    rfl

theorem map_errand_history (w : World σ) (errands : List Errand) :
    (history w errands).map Service.errand = errands := by
  induction errands generalizing w with
  | nil => rfl
  | cons errand rest ih =>
    rw [history, List.map_cons, ih]
    rfl

/-- A part of a history is the history of a part, from the world before it. -/
theorem history_of_append {w : World σ} {errands : List Errand} {before later : List Service}
    (h : history w errands = before ++ later) :
    before = history w (before.map Service.errand) ∧
      later = history (after w (before.map Service.errand)) (later.map Service.errand) := by
  have all : errands = before.map Service.errand ++ later.map Service.errand := by
    rw [← List.map_append, ← h, map_errand_history]
  rw [all, history_append] at h
  refine (List.append_inj h ?_).imp Eq.symm Eq.symm
  rw [← List.length_map Service.errand, map_errand_history, List.length_map]

/-! ### Whether the engine is connected -/

/-- Whether the engine is connected behind an errand, told from what it was before and from the
outcome: connecting changes it, and so does closing that succeeds. -/
def Service.leaves (connected : Bool) (s : Service) : Bool :=
  match s.errand, s.outcome with
  | .connect, .ok _ => true
  | .connect, .error _ => false
  | .close, .ok _ => false
  | _, _ => connected

/-- Whether an engine that was not connected is, by what has been done since. -/
def connectedBy (services : List Service) : Bool := services.foldl Service.leaves false

omit [Database σ] in
theorem Way.isUp_eq {drivers : Nat} {l l' : Link} {s : Service} (h : Way drivers l s l') :
    l'.isUp = s.leaves l.isUp := by
  cases h <;> rfl

/-- **The last change tells whether the engine is connected.** -/
theorem isUp_after {w : World σ} (checked : ∀ d, w.engine.link ≠ .unverified d)
    (errands : List Errand) :
    (after w errands).engine.link.isUp =
      (history w errands).foldl Service.leaves w.engine.link.isUp := by
  induction errands generalizing w with
  | nil => rfl
  | cons errand rest ih =>
    have first := (served checked errand).way
    rw [history, List.foldl_cons, ← first.isUp_eq]
    exact ih first.checked

/-! ### Connecting several times -/

/-- Whether an errand is to connect. -/
def Errand.connects : Errand → Bool
  | connect => true
  | _ => false

/-- Whether an errand is to close. -/
def Errand.closes : Errand → Bool
  | close => true
  | _ => false

namespace Service

/-- A connect that asked for one driver and could not connect. -/
def Failed (s : Service) : Prop :=
  s.attempts = 1 ∧ ∃ uri reason, s.outcome = .error (.connectionFailed uri reason)

/-- A connect that asked for one driver and connected. -/
def Connected (s : Service) : Prop := s.attempts = 1 ∧ s.outcome = .ok none

/-- A connect that found the engine connected and asked for nothing. -/
def Found (s : Service) : Prop := s.asked = [] ∧ s.outcome = .ok none

end Service

/-- **A batch of connects** on an engine that is not connected: all of them fail, or some fail,
the next one connects, and those behind it ask for nothing. -/
inductive Batch : List Service → Prop where
  /-- All of them fail. -/
  | failed {services : List Service} (failed : ∀ s ∈ services, s.Failed) : Batch services
  /-- One of them connects, once those before it have failed. -/
  | connected {services later : List Service} {s : Service} (failed : ∀ t ∈ services, t.Failed)
    (first : s.Connected) (found : ∀ t ∈ later, t.Found) : Batch (services ++ s :: later)

omit [Database σ] in
theorem Batch.cons {s : Service} {services : List Service} (first : s.Failed)
    (h : Batch services) : Batch (s :: services) := by
  cases h with
  | failed failed => exact .failed (List.forall_mem_cons.mpr ⟨first, failed⟩)
  | connected failed connected found =>
    exact .connected (List.forall_mem_cons.mpr ⟨first, failed⟩) connected found

omit [Database σ] in
/-- What is not to close leaves an engine connected, and connects that find it so ask for
nothing. -/
theorem Way.of_isUp {drivers : Nat} {l l' : Link} {s : Service} (h : Way drivers l s l')
    (up : l.isUp = true) (open_ : s.errand.closes = false) :
    l'.isUp = true ∧ (s.errand.connects = true → s.Found) := by
  cases h with
  | found => exact ⟨rfl, fun _ => ⟨rfl, rfl⟩⟩
  | opened | unopened => exact ⟨rfl, nofun⟩
  | closed | unclosed => cases open_
  | connected | uncreated | unverified | idle | refused => cases up

/-- As long as an engine that is connected is not closed, connects ask for nothing. -/
theorem found_history {w : World σ} (checked : ∀ d, w.engine.link ≠ .unverified d)
    (up : w.engine.link.isUp = true) {errands : List Errand}
    (open_ : ∀ errand ∈ errands, errand.closes = false) :
    ∀ s ∈ (history w errands).filter (·.errand.connects), s.Found := by
  induction errands generalizing w with
  | nil => simp [history]
  | cons errand rest ih =>
    obtain ⟨notClose, restOpen⟩ := List.forall_mem_cons.mp open_
    have first := (served checked errand).way
    obtain ⟨stays, found⟩ := first.of_isUp up notClose
    intro s hs
    obtain ⟨mem, connects⟩ := List.mem_filter.mp hs
    rcases List.mem_cons.mp mem with rfl | later
    · exact found connects
    · exact ih first.checked stays restOpen s (List.mem_filter.mpr ⟨later, connects⟩)

/-- **Connects race for one success.** As long as nothing is closed, the connects on an engine that
is not connected are a batch. -/
theorem batch_history {w : World σ} (down : w.engine.link = .down) {errands : List Errand}
    (open_ : ∀ errand ∈ errands, errand.closes = false) :
    Batch ((history w errands).filter (·.errand.connects)) := by
  induction errands generalizing w with
  | nil => exact .failed (by simp [history])
  | cons errand rest ih =>
    obtain ⟨notClose, restOpen⟩ := List.forall_mem_cons.mp open_
    have checked (d : Nat) : w.engine.link ≠ .unverified d := by simp [down]
    have first := (served checked errand).way
    have later (up : (errand.next w).engine.link.isUp = true) :=
      found_history first.checked up restOpen
    have open_ : (errand.service w).errand.closes = false := notClose
    rw [down] at first
    rw [history]
    generalize errand.service w = s at first open_
    generalize hl : (errand.next w).engine.link = l at first later
    cases first with
    | connected connection created verified =>
      exact Batch.connected (List.forall_mem_nil _) ⟨rfl, rfl⟩ (later rfl)
    | uncreated connection uri fault => exact (ih hl restOpen).cons ⟨rfl, uri, fault.message, rfl⟩
    | unverified connection uri created fault =>
      exact (ih hl restOpen).cons ⟨rfl, uri, fault.message, rfl⟩
    | idle => cases open_
    | refused database uri => exact ih hl restOpen

/-! ### Looking back -/

/-- Any part of a history goes one of the ways, on an engine that is connected if what has been
done before says so. -/
theorem way_of_history {w : World σ} (down : w.engine.link = .down) {errands : List Errand}
    {before later : List Service} {s : Service} (h : history w errands = before ++ s :: later) :
    ∃ drivers l l', Way drivers l s l' ∧ l.isUp = connectedBy before := by
  obtain ⟨first, rest⟩ := history_of_append h
  have checked (d : Nat) : w.engine.link ≠ .unverified d := by simp [down]
  have way := (served (checked_after checked (before.map Service.errand)) s.errand).way
  rw [← (List.cons.inj rest).1] at way
  refine ⟨_, _, _, way, ?_⟩
  rw [isUp_after checked, ← first, down]
  rfl

/-- As long as nothing is closed, the connects behind what has left the engine unconnected are a
batch. -/
theorem batch_of_history {w : World σ} (down : w.engine.link = .down) {errands : List Errand}
    {before batch later : List Service} (h : history w errands = before ++ (batch ++ later))
    (unconnected : connectedBy before = false) (open_ : ∀ s ∈ batch, s.errand.closes = false) :
    Batch (batch.filter (·.errand.connects)) := by
  obtain ⟨first, rest⟩ := history_of_append h
  obtain ⟨stretch, -⟩ := history_of_append rest.symm
  have checked (d : Nat) : w.engine.link ≠ .unverified d := by simp [down]
  have isUp := isUp_after checked (before.map Service.errand)
  rw [← first, down] at isUp
  have down' : (after w (before.map Service.errand)).engine.link = .down := by
    have checked' := checked_after checked (before.map Service.errand)
    cases hl : (after w (before.map Service.errand)).engine.link with
    | down => rfl
    | unverified d => exact absurd hl (checked' d)
    | up d =>
      rw [hl] at isUp
      exact absurd (isUp.trans unconnected) (by simp [Link.isUp])
  rw [stretch]
  exact batch_history down' (by simpa using open_)

namespace Service

/-- A session that was asked of the driver: what the driver answers is what comes of it. -/
def Passed (s : Service) : Prop :=
  ∃ session name answer, s.asked = [⟨.openSession session name, answer⟩] ∧
    s.outcome = (answer.map fun _ => some session).mapError .fault

/-- A session that was refused without asking. -/
def Refused (s : Service) : Prop := s.asked = [] ∧ ∃ uri, s.outcome = .error (.notConnected uri)

end Service

omit [Database σ] in
theorem Way.found_of_connect {drivers : Nat} {l l' : Link} {s : Service} (h : Way drivers l s l')
    (connect : s.errand = .connect) (up : l.isUp = true) : s.Found := by
  have open_ : s.errand.closes = false := by rw [connect]; rfl
  exact (h.of_isUp up open_).2 (by rw [connect]; rfl)

omit [Database σ] in
/-- A session is asked of the driver exactly if the engine is connected. -/
theorem Way.of_openSession {drivers : Nat} {l l' : Link} {s : Service} (h : Way drivers l s l')
    {database : Value} (opens : s.errand = .openSession database) :
    if l.isUp then s.Passed else s.Refused := by
  cases h with
  | refused database uri => exact ⟨rfl, uri, rfl⟩
  | opened d session database name result => exact ⟨session, name, .ok result, rfl, rfl⟩
  | unopened d session database name fault => exact ⟨session, name, .error fault, rfl, rfl⟩
  | _ => cases opens

end Engine

end GraphMapper
