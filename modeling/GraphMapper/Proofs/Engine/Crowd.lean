import GraphMapper.Proofs.Client.Runs
import GraphMapper.Proofs.Engine.Errands
import Mathlib.Data.List.Perm.Basic

/-!
# Many tasks at one engine

The tasks of a program share an engine, and each of them can be at an errand. They take turns:
a task goes on until it has to wait for the driver, and meanwhile any other may go on. Connecting
and closing are kept apart by a lock, which is held while the new driver is checked or the old one
is closed; opening a session takes no lock, and never waits.

This file says what comes of it. An errand is cut in two where it waits
(`GraphMapper.Engine.Errand.begin` and `GraphMapper.Engine.Advance.finish`), and the two pieces in
a row are the errand as it is (`GraphMapper.Engine.Errand.perform_begin_finish`). A
`GraphMapper.Engine.Crowd` is the world with the errands that wait for the lock, the one that holds
it, and those that are finished, in the order in which they were; any of them may go on at any time
(`GraphMapper.Engine.Turn`).

The turns make no difference: **what is finished is what the same errands come to one after the
other**, in the order in which they are finished, and so is the world, but for the first piece of
the errand inside the lock (`GraphMapper.Engine.Aligned`). The point of the argument is a session
that is opened while someone is inside: it is finished before them, so it has to commute with
their first piece (`GraphMapper.Engine.Holder.Holds.openSession`). It does, since a driver that is
being checked opens no sessions, and closing has only left a note so far.

With this the laws of single errands hold of the crowd: `GraphMapper.Engine.orderly_of_turns`.
-/

namespace GraphMapper

open GraphMapper.Action

variable {σ : Type}

namespace Engine

/-! ### An errand in two pieces -/

/-- Where an errand waits for the driver. -/
inductive Pause where
  /-- A new driver is being checked. -/
  | verifying (driver : Nat)
  /-- The driver is being closed. -/
  | closing (driver : Nat)
  /-- A driver that was never checked is being closed. -/
  | discarding (driver : Nat)

/-- How far an errand gets without waiting. -/
inductive Advance where
  /-- It has to wait. -/
  | waits (pause : Pause)
  /-- It returns, with the session that it has opened. -/
  | returns (session? : Option Nat)

/-- Connecting has failed: there is no driver. -/
def refuse {α : Type} (e : Failure) : Action σ α := do
  let uri := (← current).connection.uri.display
  setLink .down
  note .error ("Connection to " ++ uri ++ " failed: " ++ e.message)
  fail (.connectionFailed uri e.message)

variable [Database σ]

/-- Connecting, up to where the new driver is checked. The engine holds it by then. -/
def beginConnect : Action σ Advance := do
  let engine ← current
  if engine.link.isUp then pure (.returns none)
  else
    note .info ("Connecting to " ++ engine.connection.uri.display ++ " (default session DB: '"
      ++ engine.database.display ++ "')...")
    let driver ← nextDriver
    match ← attempt (call (.openDriver driver engine.connection)) with
    | .ok _ =>
      setLink (.unverified driver)
      pure (.waits (.verifying driver))
    | .error e => refuse e

omit [Database σ] in
/-- Closing, up to where the driver is closed. -/
def beginClose : Action σ Advance := do
  let engine ← current
  let uri := engine.connection.uri.display
  match engine.link with
  | .down => pure (.returns none)
  | .up driver =>
    note .info ("Closing connection to " ++ uri ++ "...")
    pure (.waits (.closing driver))
  | .unverified driver =>
    note .warning ("Driver for " ++ uri
      ++ " exists but was not fully connected. Attempting close.")
    pure (.waits (.discarding driver))

/-- An errand, up to where it waits. -/
def Errand.begin : Errand → Action σ Advance
  | connect => beginConnect
  | close => beginClose
  | openSession database => do pure (.returns (some (← Engine.openSession database)))

/-- An errand, from where it waits. -/
def Pause.resume : Pause → Action σ Unit
  | verifying driver => do
    match ← attempt (call (.verify driver)) with
    | .ok _ =>
      setLink (.up driver)
      note .info ("Successfully connected to " ++ (← current).connection.uri.display ++ ".")
    | .error e => refuse e
  | closing driver => do
    let _ ← call (.closeDriver driver)
    setLink .down
    note .info ("Connection to " ++ (← current).connection.uri.display ++ " closed.")
  | discarding driver => do
    let _ ← call (.closeDriver driver)
    setLink .down

/-- What is left of an errand. -/
def Advance.finish : Advance → Action σ (Option Nat)
  | waits pause => do
    pause.resume
    pure none
  | returns session? => pure session?

theorem beginConnect_finish (w : World σ) :
    (beginConnect >>= Advance.finish).perform w = (Errand.connect.action).perform w := by
  rw [Errand.action, beginConnect, connect, bind_assoc, bind_assoc,
    perform_bind_ok (perform_current w), perform_bind_ok (perform_current w)]
  cases hl : w.engine.link with
  | up d => rfl
  | down | unverified d =>
    simp only [Link.isUp, Bool.false_eq_true, if_false, bind_assoc, openDriver, note, perform_bind,
      perform_note, nextDriver, perform_modifyGet, attempt, call, perform_ofStep, World.respond]
    -- The driver is created or not, and then it reaches the database or not.
    rcases Database.respond w.database (.openDriver (w.drivers + 1) w.engine.connection) with
      ⟨_ | _, database⟩
    · rfl
    · simp only [setLink, perform_modify, perform_bind, perform_pure, Advance.finish, Pause.resume,
        attempt, call, perform_ofStep, World.respond, Except.mapError]
      rcases Database.respond database (.verify (w.drivers + 1)) with ⟨_ | _, database⟩ <;> rfl

theorem beginClose_finish (w : World σ) :
    (beginClose >>= Advance.finish).perform w = (Errand.close.action).perform w := by
  rw [Errand.action, beginClose, close, bind_assoc, bind_assoc,
    perform_bind_ok (perform_current w), perform_bind_ok (perform_current w)]
  cases hl : w.engine.link with
  | down => rfl
  | up d =>
    simp only [bind_assoc, note, perform_bind, perform_note, perform_pure, Advance.finish,
      Pause.resume, call, perform_ofStep, World.respond]
    rcases Database.respond w.database (.closeDriver d) with ⟨_ | _, database⟩ <;> rfl
  | unverified d =>
    simp only [bind_assoc, note, perform_bind, perform_note, perform_pure, Advance.finish,
      Pause.resume, call, perform_ofStep, World.respond]

/-- **The two pieces of an errand make the errand.** -/
theorem Errand.perform_begin_finish (errand : Errand) (w : World σ) :
    (errand.begin >>= Advance.finish).perform w = errand.action.perform w := by
  cases errand with
  | connect => exact beginConnect_finish w
  | close => exact beginClose_finish w
  | openSession database =>
    rw [begin, action, bind_assoc]
    rfl

/-! ### What the pieces do -/

omit [Database σ] in
theorem within_grows_setLink (link : Link) : Within World.Grows (setLink link : Action σ Unit) :=
  fun w => List.prefix_refl w.trace

omit [Database σ] in
theorem within_grows_current : Within World.Grows (current : Action σ Engine) :=
  within_get.bind fun _ => within_pure _

omit [Database σ] in
theorem within_grows_refuse {α : Type} (e : Failure) :
    Within World.Grows (refuse e : Action σ α) :=
  within_grows_current.bind fun _ => (within_grows_setLink _).bind fun _ =>
    (within_note _ _ _).bind fun _ => within_fail _

theorem Errand.within_grows_begin (errand : Errand) :
    Within World.Grows (errand.begin : Action σ Advance) := by
  cases errand with
  | connect =>
    refine within_grows_current.bind fun engine => ?_
    split
    · exact within_pure _
    · refine (within_note _ _ _).bind fun _ => Within.bind (fun w => List.prefix_refl w.trace)
        fun driver => (within_grows_call _).attempt.bind fun answer => ?_
      cases answer with
      | ok _ => exact (within_grows_setLink _).bind fun _ => within_pure _
      | error e => exact within_grows_refuse e
  | close =>
    refine within_grows_current.bind fun engine => ?_
    dsimp only
    split
    · exact within_pure _
    · exact (within_note _ _ _).bind fun _ => within_pure _
    · exact (within_note _ _ _).bind fun _ => within_pure _
  | openSession database =>
    refine Within.bind (Within.bind ?_ fun _ => Within.bind (fun w => List.prefix_refl w.trace)
      fun _ => within_grows_current.bind fun _ => (within_grows_call _).bind fun _ => within_pure _)
      fun _ => within_pure _
    refine within_grows_current.bind fun engine => ?_
    split
    · exact within_pure _
    · exact within_fail _

theorem Advance.within_grows_finish (advance : Advance) :
    Within World.Grows (advance.finish : Action σ (Option Nat)) := by
  cases advance with
  | returns session? => exact within_pure _
  | waits pause =>
    refine Within.bind ?_ fun _ => within_pure _
    cases pause with
    | verifying driver =>
      refine (within_grows_call _).attempt.bind fun answer => ?_
      cases answer with
      | ok _ => exact (within_grows_setLink _).bind fun _ => within_grows_current.bind fun _ =>
          within_note _ _ _
      | error e => exact within_grows_refuse e
    | closing driver =>
      exact (within_grows_call _).bind fun _ => (within_grows_setLink _).bind fun _ =>
        within_grows_current.bind fun _ => within_note _ _ _
    | discarding driver =>
      exact (within_grows_call _).bind fun _ => within_grows_setLink _

namespace Errand

/-- An errand that fails in its first piece has failed. -/
theorem next_of_begin_error {errand : Errand} {v u : World σ} {e : Failure}
    (h : errand.begin.perform v = (.error e, u)) :
    errand.next v = u ∧ errand.service v = ⟨errand, errand.begin.exchanges v, .error e⟩ := by
  have whole := (errand.perform_begin_finish v).symm.trans (perform_bind_error h)
  unfold next service exchanges
  rw [whole, h]
  exact ⟨rfl, rfl⟩

/-- An errand that gets so far without failing is finished by the rest of it. -/
theorem next_of_begin_ok {errand : Errand} {v u : World σ} {advance : Advance}
    (h : errand.begin.perform v = (.ok advance, u)) :
    errand.next v = (advance.finish.perform u).2 ∧
      errand.service v = ⟨errand, errand.begin.exchanges v ++ advance.finish.exchanges u,
        (advance.finish.perform u).1⟩ := by
  have whole := (errand.perform_begin_finish v).symm.trans (perform_bind_ok h)
  have asked := exchanges_bind_of_grows errand.within_grows_begin Advance.within_grows_finish h
  rw [← asked]
  unfold next service exchanges
  rw [whole, errand.perform_begin_finish v, whole]
  exact ⟨rfl, rfl⟩

/-- An errand that returns without waiting is done. -/
theorem next_of_begin_returns {errand : Errand} {v u : World σ} {session? : Option Nat}
    (h : errand.begin.perform v = (.ok (.returns session?), u)) :
    errand.next v = u ∧ errand.service v = ⟨errand, errand.begin.exchanges v, .ok session?⟩ := by
  have done := next_of_begin_ok h
  rwa [Advance.finish, exchanges_pure, List.append_nil] at done

end Errand

/-- What has been done for an errand that waits, between the world it has found and the one it
waits in: connecting holds a driver that is being checked; closing has left a note. -/
inductive Waiting (v u : World σ) : Errand → Pause → Prop where
  /-- A driver is being checked. -/
  | verifying (driver : Nat) (down : v.engine.link.isUp = false)
    (held : u.engine = { v.engine with link := .unverified driver }) :
    Waiting v u .connect (.verifying driver)
  /-- The driver is being closed. -/
  | closing (driver : Nat) (log : List LogEntry) (up : v.engine.link = .up driver)
    (noted : u = { v with log }) : Waiting v u .close (.closing driver)
  /-- A driver that was never checked is being closed. -/
  | discarding (driver : Nat) (log : List LogEntry) (held : v.engine.link = .unverified driver)
    (noted : u = { v with log }) : Waiting v u .close (.discarding driver)

theorem waiting_of_begin {errand : Errand} {v u : World σ} {pause : Pause}
    (h : errand.begin.perform v = (.ok (.waits pause), u)) : Waiting v u errand pause := by
  cases errand with
  | connect =>
    rw [Errand.begin, beginConnect, perform_bind_ok (perform_current v)] at h
    cases hl : v.engine.link with
    | up d =>
      rw [hl] at h
      cases h
    | down | unverified d =>
      have down : v.engine.link.isUp = false := by rw [hl]; rfl
      simp only [down, Bool.false_eq_true, if_false, note, perform_bind, perform_note, nextDriver,
        perform_modifyGet, attempt, call, perform_ofStep, World.respond] at h
      rcases answered : Database.respond v.database
        (.openDriver (v.drivers + 1) v.engine.connection) with ⟨_ | _, database⟩
      · rw [answered] at h
        cases h
      · rw [answered] at h
        cases h
        exact .verifying (v.drivers + 1) down rfl
  | close =>
    rw [Errand.begin, beginClose, perform_bind_ok (perform_current v)] at h
    cases hl : v.engine.link with
    | down =>
      rw [hl] at h
      cases h
    | up d =>
      rw [hl] at h
      cases h
      exact .closing d _ hl rfl
    | unverified d =>
      rw [hl] at h
      cases h
      exact .discarding d _ hl rfl
  | openSession database =>
    rw [Errand.begin, perform_bind] at h
    rcases opened : (openSession database).perform v with ⟨_ | _, _⟩ <;> rw [opened] at h <;>
      cases h

/-! ### A session while someone waits -/

/-- An engine that is not connected opens no session. -/
theorem perform_openSession_of_not_isUp (database : Value) {v : World σ}
    (down : v.engine.link.isUp = false) : (Errand.openSession database).action.perform v =
      (.error (.notConnected v.engine.connection.uri.display), v) := by
  have refused := perform_driver v
  cases hl : v.engine.link with
  | up d =>
    rw [hl] at down
    cases down
  | down | unverified d =>
    rw [hl] at refused
    exact perform_bind_error (perform_bind_error refused)

/-- Opening a session of a connected engine has nothing to do with the log. -/
theorem perform_openSession_of_up (database : Value) {v : World σ} {d : Nat}
    (up : v.engine.link = .up d) : ∃ outcome xs database', ∀ log,
      (Errand.openSession database).action.perform { v with log } = (outcome, { v with
        log, database := database', sessions := v.sessions + 1, trace := v.trace ++ xs }) := by
  have driven (log : List LogEntry) : (driver : Action σ Nat).perform { v with log } =
      (.ok d, { v with log }) := by
    rw [perform_driver, up]
  let name := v.engine.databaseOf database
  refine ⟨((Database.respond v.database (.openSession (v.sessions + 1) name)).1.map
      fun _ => some (v.sessions + 1)).mapError .fault,
    [⟨.openSession (v.sessions + 1) name,
      (Database.respond v.database (.openSession (v.sessions + 1) name)).1⟩],
    (Database.respond v.database (.openSession (v.sessions + 1) name)).2, fun log => ?_⟩
  rw [Errand.action, openSession, bind_assoc, perform_bind_ok (driven log)]
  simp only [nextSession, bind_assoc, perform_bind, perform_modifyGet, current, perform_get,
    perform_pure, call, perform_ofStep, World.respond]
  rcases Database.respond v.database (.openSession (v.sessions + 1) name) with ⟨_ | _, _⟩ <;> rfl

omit [Database σ] in
/-- Up to where it waits, closing looks at the engine and leaves notes. -/
theorem perform_beginClose (engine : Engine) : ∃ outcome notes, ∀ w : World σ, w.engine = engine →
    beginClose.perform w = (outcome, { w with log := w.log ++ notes }) := by
  cases hl : engine.link with
  | down =>
    refine ⟨.ok (.returns none), [], ?_⟩
    rintro w rfl
    rw [beginClose, perform_bind_ok (perform_current w), hl, List.append_nil]
    rfl
  | up d =>
    refine ⟨.ok (.waits (.closing d)), [⟨.info, .engine, "GraphEngine: " ++
      ("Closing connection to " ++ engine.connection.uri.display ++ "...")⟩], ?_⟩
    rintro w rfl
    rw [beginClose, perform_bind_ok (perform_current w), hl]
    exact perform_bind_ok (perform_note _ _ _ w)
  | unverified d =>
    refine ⟨.ok (.waits (.discarding d)), [⟨.warning, .engine, "GraphEngine: " ++ ("Driver for "
      ++ engine.connection.uri.display
      ++ " exists but was not fully connected. Attempting close.")⟩], ?_⟩
    rintro w rfl
    rw [beginClose, perform_bind_ok (perform_current w), hl]
    exact perform_bind_ok (perform_note _ _ _ w)

/-- Someone who is inside the lock, waiting for the driver. -/
structure Holder where
  /-- Their errand. -/
  errand : Errand
  /-- Where it waits. -/
  pause : Pause
  /-- The exchanges that it has made so far. -/
  asked : List Exchange

/-- From the world that someone finds to the one that they wait in. -/
structure Holder.Holds (holder : Holder) (v u : World σ) : Prop where
  /-- Their errand has got so far. -/
  begun : holder.errand.begin.perform v = (.ok (.waits holder.pause), u)
  /-- It has made these exchanges. -/
  asked : holder.asked = holder.errand.begin.exchanges v

/-- **A session commutes with the first piece of an errand inside the lock**: it is opened or
refused as it is before that, and what it leaves is what that comes to behind it. -/
theorem Holder.Holds.openSession {holder : Holder} {v u : World σ} (h : holder.Holds v u)
    (database : Value) :
    (Errand.openSession database).service u = (Errand.openSession database).service v ∧
      holder.Holds ((Errand.openSession database).next v)
        ((Errand.openSession database).next u) := by
  obtain ⟨errand, pause, asked⟩ := holder
  have begun := h.begun
  unfold Errand.service Errand.next exchanges
  cases waiting_of_begin begun with
  | verifying driver down held =>
    -- Both worlds have no session to give, and stay as they are.
    have down' : u.engine.link.isUp = false := by rw [held]; rfl
    rw [perform_openSession_of_not_isUp database down,
      perform_openSession_of_not_isUp database down', held, List.drop_length, List.drop_length]
    exact ⟨rfl, h⟩
  | closing driver log up noted =>
    subst noted
    obtain ⟨outcome, xs, database', opened⟩ := perform_openSession_of_up database up
    obtain ⟨result, notes, closing⟩ := perform_beginClose (σ := σ) v.engine
    have here := begun.symm.trans (closing v rfl)
    obtain rfl : result = .ok (.waits (.closing driver)) := (congrArg Prod.fst here).symm
    obtain rfl : log = v.log ++ notes := congrArg (fun p => p.2.log) here
    rw [opened v.log, opened (v.log ++ notes)]
    refine ⟨rfl, closing _ rfl, ?_⟩
    rw [h.asked, exchanges_of_trace (congrArg (fun p => p.2.trace) begun)]
    let v' : World σ :=
      { v with database := database', sessions := v.sessions + 1, trace := v.trace ++ xs }
    have quiet : (beginClose.perform v').2.trace = v'.trace := by rw [closing v' rfl]
    exact (exchanges_of_trace quiet).symm
  | discarding driver log held noted =>
    have down : v.engine.link.isUp = false := by rw [held]; rfl
    subst noted
    rw [perform_openSession_of_not_isUp database down,
      perform_openSession_of_not_isUp (v := { v with log }) database down, List.drop_length]
    exact ⟨rfl, h⟩

/-! ### The crowd -/

/-- Whether an errand is done behind the lock. -/
def Errand.locks : Errand → Bool
  | connect | close => true
  | openSession _ => false

/-- **The tasks at an engine.** -/
structure Crowd (σ : Type) where
  /-- The world they act in. -/
  world : World σ
  /-- The errands that have not been begun. -/
  outside : List Errand := []
  /-- The one that is inside the lock. -/
  inside? : Option Holder := none
  /-- What is finished, in this order. -/
  finished : List Service := []

/-- What happens next. -/
inductive Turn where
  /-- Another task comes with an errand. -/
  | come (errand : Errand)
  /-- One of the errands that have not been begun goes on, if it may. -/
  | enter (i : Nat)
  /-- The errand inside the lock goes on. -/
  | answer

namespace Crowd

/-- An errand is begun. -/
def grant (crowd : Crowd σ) (errand : Errand) : Crowd σ :=
  let asked := errand.begin.exchanges crowd.world
  match errand.begin.perform crowd.world with
  | (.ok (.waits pause), world) => { crowd with world, inside? := some ⟨errand, pause, asked⟩ }
  | (.ok (.returns session?), world) =>
    { crowd with world, finished := crowd.finished ++ [⟨errand, asked, .ok session?⟩] }
  | (.error e, world) =>
    { crowd with world, finished := crowd.finished ++ [⟨errand, asked, .error e⟩] }

/-- The errand inside the lock is finished. -/
def release (crowd : Crowd σ) (holder : Holder) : Crowd σ :=
  let rest : Action σ (Option Nat) := (Advance.waits holder.pause).finish
  let (outcome, world) := rest.perform crowd.world
  let asked := holder.asked ++ rest.exchanges crowd.world
  { crowd with
    world, inside? := none, finished := crowd.finished ++ [⟨holder.errand, asked, outcome⟩] }

/-- A turn. What is done behind the lock is not begun while someone is inside. -/
def step (crowd : Crowd σ) : Turn → Crowd σ
  | .come errand => { crowd with outside := crowd.outside ++ [errand] }
  | .enter i =>
    match crowd.outside[i]? with
    | none => crowd
    | some errand =>
      if errand.locks && crowd.inside?.isSome then crowd
      else grant { crowd with outside := crowd.outside.eraseIdx i } errand
  | .answer =>
    match crowd.inside? with
    | none => crowd
    | some holder => crowd.release holder

/-- Any row of turns. -/
def run (crowd : Crowd σ) (turns : List Turn) : Crowd σ := turns.foldl step crowd

end Crowd

/-- A turn begins an errand, one that takes the lock only if nobody is inside, or it does
nothing. -/
theorem Crowd.enter_cases (crowd : Crowd σ) (i : Nat) : crowd.step (.enter i) = crowd ∨
    ∃ errand, crowd.outside[i]? = some errand ∧ (errand.locks = true → crowd.inside? = none) ∧
      crowd.step (.enter i) = grant { crowd with outside := crowd.outside.eraseIdx i } errand := by
  rw [step]
  cases found : crowd.outside[i]? with
  | none => exact .inl rfl
  | some errand =>
    dsimp only
    split
    · exact .inl rfl
    · next free => exact .inr ⟨errand, rfl, fun locks => by simpa [locks] using free, rfl⟩

/-- **What becomes of an errand that is begun**: it waits inside the lock, or it is done. -/
theorem Crowd.grant_cases (crowd : Crowd σ) (errand : Errand) :
    (∃ pause world, errand.begin.perform crowd.world = (.ok (.waits pause), world) ∧
      crowd.grant errand = { crowd with
        world, inside? := some ⟨errand, pause, errand.begin.exchanges crowd.world⟩ }) ∨
    crowd.grant errand = { crowd with
      world := errand.next crowd.world,
      finished := crowd.finished ++ [errand.service crowd.world] } := by
  unfold grant
  rcases hp : errand.begin.perform crowd.world with ⟨e | ⟨pause⟩ | ⟨session?⟩, u⟩
  · obtain ⟨next, service⟩ := Errand.next_of_begin_error hp
    rw [next, service]
    exact .inr rfl
  · exact .inl ⟨pause, u, rfl, rfl⟩
  · obtain ⟨next, service⟩ := Errand.next_of_begin_returns hp
    rw [next, service]
    exact .inr rfl

/-- The errand inside the lock comes to what it comes to in the world that it has found. -/
theorem Crowd.release_eq {crowd : Crowd σ} {holder : Holder} {v : World σ}
    (h : holder.Holds v crowd.world) :
    crowd.release holder = { crowd with
      world := holder.errand.next v, inside? := none,
      finished := crowd.finished ++ [holder.errand.service v] } := by
  obtain ⟨next, service⟩ := Errand.next_of_begin_ok h.begun
  rw [next, service, ← h.asked]
  rfl

/-! ### One after the other -/

/-- **A crowd that agrees with errands one after the other**: what is finished is what the same
errands come to from the world at the start, and the world is the one that they leave, but for what
the errand inside the lock has done in it. -/
structure Aligned (start : World σ) (crowd : Crowd σ) : Prop where
  /-- The errands come to what is finished. -/
  finished : history start (crowd.finished.map Service.errand) = crowd.finished
  /-- Nobody inside the lock has done anything. -/
  world : crowd.inside? = none → crowd.world = after start (crowd.finished.map Service.errand)
  /-- The one inside has begun in the world that the errands leave. -/
  inside : ∀ holder, crowd.inside? = some holder →
    holder.Holds (after start (crowd.finished.map Service.errand)) crowd.world

/-- Another errand at the end. -/
theorem history_finish {start : World σ} {services : List Service}
    (h : history start (services.map Service.errand) = services) (errand : Errand) :
    let v := after start (services.map Service.errand)
    history start ((services ++ [errand.service v]).map Service.errand) =
        services ++ [errand.service v] ∧
      after start ((services ++ [errand.service v]).map Service.errand) = errand.next v := by
  intro v
  rw [List.map_append, history_append, after_append, h]
  exact ⟨rfl, rfl⟩

variable {start : World σ} {crowd : Crowd σ}

/-- An errand that is begun while nobody is inside. -/
theorem Aligned.grant (h : Aligned start crowd) (empty : crowd.inside? = none) (errand : Errand) :
    Aligned start (crowd.grant errand) := by
  have world := h.world empty
  rcases crowd.grant_cases errand with ⟨pause, u, begun, done⟩ | done
  · rw [done]
    refine ⟨h.finished, nofun, fun holder inside => ?_⟩
    obtain rfl := Option.some.inj inside
    rw [← world]
    exact ⟨begun, rfl⟩
  · rw [done, world]
    obtain ⟨finished, after⟩ := history_finish h.finished errand
    exact ⟨finished, fun _ => after.symm, fun _ inside => by simp [empty] at inside⟩

/-- A session that is opened while someone is inside. -/
theorem Aligned.grant_openSession (h : Aligned start crowd) {holder : Holder}
    (inside : crowd.inside? = some holder) (database : Value) :
    Aligned start (crowd.grant (.openSession database)) := by
  obtain ⟨same, holds⟩ := (h.inside holder inside).openSession database
  rcases crowd.grant_cases (.openSession database) with ⟨pause, u, begun, -⟩ | done
  · cases waiting_of_begin begun
  · obtain ⟨finished, after⟩ := history_finish h.finished (.openSession database)
    rw [done, same]
    refine ⟨finished, fun empty => by simp [inside] at empty, fun other hother => ?_⟩
    obtain rfl := Option.some.inj (inside.symm.trans hother)
    rwa [after]

/-- The errand inside the lock is finished. -/
theorem Aligned.release (h : Aligned start crowd) {holder : Holder}
    (inside : crowd.inside? = some holder) : Aligned start (crowd.release holder) := by
  obtain ⟨finished, after⟩ := history_finish h.finished holder.errand
  rw [Crowd.release_eq (h.inside holder inside)]
  exact ⟨finished, fun _ => after.symm, nofun⟩

/-- **Every turn keeps the crowd in agreement with errands one after the other.** -/
theorem Aligned.step (h : Aligned start crowd) (turn : Turn) : Aligned start (crowd.step turn) := by
  have waiting (outside : List Errand) : Aligned start { crowd with outside } :=
    ⟨h.finished, h.world, h.inside⟩
  cases turn with
  | come errand => exact waiting _
  | enter i =>
    obtain done | ⟨errand, -, free, done⟩ := crowd.enter_cases i <;> rw [done]
    · exact h
    · rcases Option.eq_none_or_eq_some crowd.inside? with inside | ⟨holder, inside⟩
      · exact (waiting (crowd.outside.eraseIdx i)).grant inside errand
      · rw [inside] at free
        cases errand with
        | connect | close => cases free rfl
        | openSession database =>
          exact (waiting (crowd.outside.eraseIdx i)).grant_openSession inside database
  | answer =>
    rw [Crowd.step]
    cases inside : crowd.inside? with
    | none => exact h
    | some holder => exact h.release inside

theorem Aligned.run (h : Aligned start crowd) (turns : List Turn) :
    Aligned start (crowd.run turns) := by
  induction turns generalizing crowd with
  | nil => exact h
  | cons turn rest ih => exact ih (h.step turn)

/-! ### Everyone is accounted for -/

/-- The errand that comes in a turn. -/
def Turn.errand? : Turn → Option Errand
  | come errand => some errand
  | _ => none

/-- The errands of a crowd, wherever they are. -/
def Crowd.errands (crowd : Crowd σ) : List Errand :=
  crowd.outside ++ (crowd.inside?.toList.map Holder.errand ++ crowd.finished.map Service.errand)

theorem Crowd.errands_grant (crowd : Crowd σ) (errand : Errand)
    (free : errand.locks = true → crowd.inside? = none) :
    (crowd.grant errand).errands.Perm (errand :: crowd.errands) := by
  unfold errands
  rcases crowd.grant_cases errand with ⟨pause, u, begun, done⟩ | done
  · have locks : errand.locks = true := by cases waiting_of_begin begun <;> rfl
    rw [done, free locks]
    exact List.perm_middle
  · rw [done]
    simp only [List.map_append, List.map_cons, List.map_nil, ← List.append_assoc]
    exact List.perm_append_singleton _ _

/-- No turn loses an errand, or makes one up. -/
theorem Crowd.errands_step (crowd : Crowd σ) (turn : Turn) :
    (crowd.step turn).errands.Perm (turn.errand?.toList ++ crowd.errands) := by
  cases turn with
  | come errand =>
    rw [step, errands, List.append_assoc]
    exact List.perm_middle
  | enter i =>
    obtain done | ⟨errand, found, free, done⟩ := crowd.enter_cases i <;> rw [done]
    · exact .refl _
    · refine (errands_grant { crowd with outside := crowd.outside.eraseIdx i } errand free).trans ?_
      obtain ⟨hi, rfl⟩ := List.getElem?_eq_some_iff.mp found
      exact (List.getElem_cons_eraseIdx_perm hi).append_right _
  | answer =>
    rw [step]
    cases inside : crowd.inside? with
    | none => exact .refl _
    | some holder =>
      have left : (crowd.release holder).errands =
          crowd.outside ++ (crowd.finished.map Service.errand ++ [holder.errand]) := by
        simp [errands, release]
      dsimp only
      rw [left, errands, inside]
      exact (List.perm_append_singleton holder.errand _).append_left _

theorem Crowd.errands_run (crowd : Crowd σ) (turns : List Turn) :
    (crowd.run turns).errands.Perm (turns.filterMap Turn.errand? ++ crowd.errands) := by
  induction turns generalizing crowd with
  | nil => exact .refl _
  | cons turn rest ih =>
    refine (ih (crowd.step turn)).trans ((crowd.errands_step turn).append_left _ |>.trans ?_)
    rw [List.filterMap_cons]
    cases turn.errand? with
    | none => exact .refl _
    | some errand => exact List.perm_middle

/-! ### Nobody waits for ever -/

theorem Crowd.outside_answer (crowd : Crowd σ) : (crowd.step .answer).inside? = none ∧
    (crowd.step .answer).outside = crowd.outside := by
  rw [step]
  cases inside : crowd.inside? with
  | none => exact ⟨inside, rfl⟩
  | some holder => exact ⟨rfl, rfl⟩

theorem Crowd.outside_grant (crowd : Crowd σ) (errand : Errand) :
    (crowd.grant errand).outside = crowd.outside := by
  rcases crowd.grant_cases errand with ⟨pause, u, -, done⟩ | done <;> rw [done]

/-- While nobody is inside, the first errand outside can be begun. -/
theorem Crowd.outside_enter {crowd : Crowd σ} (empty : crowd.inside? = none) {errand : Errand}
    {rest : List Errand} (outside : crowd.outside = errand :: rest) :
    (crowd.step (.enter 0)).outside = rest := by
  have begun : crowd.step (.enter 0) = grant { crowd with outside := rest } errand := by
    rw [step, outside, empty]
    exact if_neg (by simp)
  rw [begun, outside_grant]

/-- **Every errand can be finished**, if those that wait go on. -/
theorem Crowd.exists_run_finished (crowd : Crowd σ) : ∃ turns, turns.filterMap Turn.errand? = [] ∧
    (crowd.run turns).inside? = none ∧ (crowd.run turns).outside = [] := by
  -- Whoever is inside leaves first; then one after the other enters and leaves.
  suffices empty : ∀ (outside : List Errand) (crowd : Crowd σ), crowd.outside = outside →
      crowd.inside? = none → ∃ turns, turns.filterMap Turn.errand? = [] ∧
        (crowd.run turns).inside? = none ∧ (crowd.run turns).outside = [] by
    obtain ⟨inside, same⟩ := crowd.outside_answer
    obtain ⟨turns, none, done⟩ := empty _ _ same inside
    exact ⟨.answer :: turns, none, done⟩
  intro outside
  induction outside with
  | nil => exact fun crowd outside inside => ⟨[], rfl, inside, outside⟩
  | cons errand rest ih =>
    intro crowd outside inside
    obtain ⟨inside', same⟩ := (crowd.step (.enter 0)).outside_answer
    obtain ⟨turns, none, done⟩ := ih _ (same.trans (outside_enter inside outside)) inside'
    exact ⟨.enter 0 :: .answer :: turns, none, done⟩

/-! ### The laws of a crowd -/

/-- **The laws of a crowd** to which errands have come. -/
structure Crowd.Orderly (crowd : Crowd σ) (come : List Errand) : Prop where
  /-- Every errand that has come is outside, or inside the lock, or finished. -/
  accounted : crowd.errands.Perm come
  /-- While nobody is inside, the engine is connected exactly if it holds a driver. -/
  held : crowd.inside? = none → (crowd.world.engine.link.isUp = true ↔
    ∃ driver, crowd.world.engine.link.driver? = some driver)
  /-- No close meets a driver that is held without being connected. -/
  closing : ∀ holder driver, crowd.inside? = some holder → holder.pause ≠ .discarding driver
  /-- At any time, the last change that is finished tells whether the engine is connected. -/
  connected : crowd.world.engine.link.isUp = connectedBy crowd.finished
  /-- A connect that finds the engine connected asks for nothing. -/
  found : ∀ before s later, crowd.finished = before ++ s :: later → s.errand = .connect →
    connectedBy before = true → s.Found
  /-- Connects at an engine that is not connected fail with one driver each, until one of them
  connects; those behind it ask for nothing, as long as nothing is closed. -/
  batch : ∀ before batch later, crowd.finished = before ++ (batch ++ later) →
    connectedBy before = false → (∀ s ∈ batch, s.errand.closes = false) →
    Batch (batch.filter (·.errand.connects))
  /-- A session is asked of the driver exactly if the last change that is finished has left the
  engine connected, and then the driver decides. -/
  session : ∀ before s later database, crowd.finished = before ++ s :: later →
    s.errand = .openSession database → if connectedBy before then s.Passed else s.Refused
  /-- If those that wait go on, all that have come are finished. -/
  settled : ∃ turns, ((crowd.run turns).finished.map Service.errand).Perm come

/-- The engine is as connected as before while someone waits inside. -/
theorem Holder.Holds.isUp_eq {holder : Holder} {v u : World σ} (h : holder.Holds v u) :
    u.engine.link.isUp = v.engine.link.isUp := by
  obtain ⟨errand, pause, asked⟩ := holder
  cases waiting_of_begin h.begun with
  | verifying driver down held =>
    rw [held, down]
    rfl
  | closing driver log up noted => rw [noted]
  | discarding driver log held noted => rw [noted]

/-- Whatever is done at an engine that is not connected, it holds no driver that was never
checked. -/
theorem checked_of_down (down : start.engine.link = .down) (errands : List Errand)
    (driver : Nat) : (after start errands).engine.link ≠ .unverified driver :=
  checked_after (fun _ => by simp [down]) errands driver

section

variable (h : Aligned start crowd) (down : start.engine.link = .down)

include h down

/-- The last change that is finished tells whether the engine is connected. -/
theorem Aligned.isUp_eq : crowd.world.engine.link.isUp = connectedBy crowd.finished := by
  have finished : (after start (crowd.finished.map Service.errand)).engine.link.isUp =
      connectedBy crowd.finished := by
    rw [isUp_after (fun _ => by simp [down]), h.finished, down]
    rfl
  rcases Option.eq_none_or_eq_some crowd.inside? with inside | ⟨holder, inside⟩
  · rw [h.world inside, finished]
  · rw [(h.inside holder inside).isUp_eq, finished]

/-- While nobody is inside, the engine is connected exactly if it holds a driver. -/
theorem Aligned.isUp_iff (empty : crowd.inside? = none) : crowd.world.engine.link.isUp = true ↔
    ∃ driver, crowd.world.engine.link.driver? = some driver := by
  rw [h.world empty]
  cases link : (after start (crowd.finished.map Service.errand)).engine.link with
  | down => simp [Link.isUp, Link.driver?]
  | unverified driver => exact absurd link (checked_of_down down _ driver)
  | up driver => simp [Link.isUp, Link.driver?]

/-- Nobody inside the lock is closing a driver that was never checked. -/
theorem Aligned.not_discarding {holder : Holder} (inside : crowd.inside? = some holder)
    (driver : Nat) : holder.pause ≠ .discarding driver := by
  obtain ⟨errand, pause, asked⟩ := holder
  rintro rfl
  cases waiting_of_begin (h.inside _ inside).begun with
  | discarding driver log held noted => exact checked_of_down down _ driver held

end

/-- **The engine under many tasks.** Any number of tasks come to an engine that is not connected,
to connect, to close, and to open sessions; they take turns in any order, and the driver answers
what it likes. -/
theorem orderly_of_turns (database : σ) (clock : Float) (identifiers : IdentifierSource)
    (stripHyphens uri name : Value) (auth : Option (String × String))
    (config : List (String × Value)) (turns : List Turn) :
    let start := Client.opened database (ofConfig uri auth name config) clock identifiers
      stripHyphens
    (Crowd.run ⟨start, [], none, []⟩ turns).Orderly (turns.filterMap Turn.errand?) := by
  intro start
  have down : start.engine.link = .down := rfl
  have alone : Aligned start ⟨start, [], none, []⟩ := ⟨rfl, fun _ => rfl, nofun⟩
  have aligned := alone.run turns
  have everyone := Crowd.errands_run ⟨start, [], none, []⟩ turns
  rw [show Crowd.errands ⟨start, [], none, []⟩ = [] from rfl, List.append_nil] at everyone
  generalize Crowd.run ⟨start, [], none, []⟩ turns = crowd at aligned everyone
  refine
    { accounted := everyone
      held := aligned.isUp_iff down
      closing := fun holder driver inside => aligned.not_discarding down inside driver
      connected := aligned.isUp_eq down
      found := ?found
      batch := ?batch
      session := ?session
      settled := ?settled }
  case found =>
    intro before s later split connect connected
    obtain ⟨_, l, l', way, isUp⟩ := way_of_history down (aligned.finished.trans split)
    exact way.found_of_connect connect (isUp.trans connected)
  case batch =>
    intro before batch later split unconnected open_
    exact batch_of_history down (aligned.finished.trans split) unconnected open_
  case session =>
    intro before s later database split opens
    obtain ⟨_, l, l', way, isUp⟩ := way_of_history down (aligned.finished.trans split)
    rw [← isUp]
    exact way.of_openSession opens
  case settled =>
    obtain ⟨more, none, inside, outside⟩ := crowd.exists_run_finished
    have all := crowd.errands_run more
    rw [none, Crowd.errands, inside, outside] at all
    exact ⟨more, all.trans everyone⟩

end Engine

end GraphMapper
