import GraphMapper.Database
import GraphMapper.Text.Hex

/-!
# The world of a client

Operations on a database are not functions of their arguments alone. They talk to the
driver, look at the clock, draw identifiers, and leave notes in a log. All of this is the
`World` they act in; an `Action` is a step from one world to the next, with a value or a
failure as its outcome. A failed action leaves the world as it was when it failed.

The world remembers every call to the driver together with its answer, in `trace`, so what
an action did can be read off the world it leaves.
-/

namespace GraphMapper

/-! ### The log -/

/-- How much a note matters. -/
inductive LogLevel where
  /-- For following what happens. -/
  | debug
  /-- For knowing what happened. -/
  | info
  /-- Something to look at. -/
  | warning
  /-- Something went wrong. -/
  | error
  deriving DecidableEq, Repr

/-- The part of the library that leaves a note. -/
inductive LogOrigin where
  /-- The engine. -/
  | engine
  /-- A transaction. -/
  | transaction
  /-- The client. -/
  | client
  /-- The loading of related nodes. -/
  | relationships
  deriving DecidableEq, Repr

/-- A note in the log. -/
structure LogEntry where
  /-- How much it matters. -/
  level : LogLevel
  /-- Who left it. -/
  origin : LogOrigin
  /-- What it says. -/
  message : String
  deriving DecidableEq, Repr

/-! ### Identifiers -/

/-- Where the identifiers of new nodes come from: numbers given in advance, and after these
a count. -/
structure IdentifierSource where
  /-- The numbers given in advance. -/
  given : List Nat := []
  /-- How many have been drawn. -/
  drawn : Nat := 0
  deriving DecidableEq, Repr

namespace IdentifierSource

/-- The next number. -/
def next (s : IdentifierSource) : Nat := s.given[s.drawn]?.getD (s.drawn + 1)

/-- The source once the next number has been drawn. -/
def advance (s : IdentifierSource) : IdentifierSource := { s with drawn := s.drawn + 1 }

/-- A number as an identifier, with its digits in groups unless hyphens are unwanted. -/
def written (stripHyphens : Bool) (n : Nat) : String :=
  let digits := Text.hexDigits 32 n
  if stripHyphens then String.ofList digits
  else "-".intercalate ([(0, 8), (8, 4), (12, 4), (16, 4), (20, 12)].map fun group =>
    String.ofList ((digits.drop group.1).take group.2))

end IdentifierSource

/-! ### Engine and transactions -/

/-- The link of an engine to its driver. -/
inductive Link where
  /-- There is no driver. -/
  | down
  /-- There is a driver, but it has not been checked. -/
  | unverified (driver : Nat)
  /-- There is a driver, and it reaches the database. -/
  | up (driver : Nat)
  deriving DecidableEq, Repr

namespace Link

/-- Whether the engine is connected. -/
def isUp : Link → Bool
  | up _ => true
  | _ => false

/-- The driver at hand. -/
def driver? : Link → Option Nat
  | down => none
  | unverified d | up d => some d

end Link

/-- An engine: how to connect, the database of a session that names none, and the link. -/
structure Engine where
  /-- Where to connect to. -/
  connection : Connection
  /-- The database of a session that names none. -/
  database : Value
  /-- The link to the driver. -/
  link : Link := .down

/-- The states of a transaction. -/
inductive Phase where
  /-- Nothing is under way. -/
  | idle
  /-- Statements can be run. -/
  | active
  deriving DecidableEq, Repr

/-- The word for a state. -/
def Phase.word : Phase → String
  | idle => "idle"
  | active => "active"

/-- A handle for transactions, one after the other. -/
structure Transaction where
  /-- The database of its sessions; anything empty names none. -/
  database : Value := .null
  /-- Its state. -/
  phase : Phase := .idle
  /-- The session it holds. -/
  session? : Option Nat := none
  /-- The transaction of the driver that it holds. -/
  work? : Option Nat := none

namespace Transaction

/-- Whether statements can be run in it. -/
def isActive (t : Transaction) : Bool := t.phase = .active

/-- A short description of the handle. -/
def summary (t : Transaction) : String := "Transaction(state='" ++ t.phase.word ++ "')"

end Transaction

/-! ### Worlds and actions -/

/-- A call and its answer. -/
structure Exchange where
  /-- The call. -/
  call : Call
  /-- The answer. -/
  answer : Except Fault Result

/-- All that actions find and change. -/
structure World (σ : Type) where
  /-- The database behind the driver. -/
  database : σ
  /-- The calls so far, with their answers. -/
  trace : List Exchange := []
  /-- The notes so far. -/
  log : List LogEntry := []
  /-- The time, in seconds. -/
  clock : Float
  /-- Where identifiers come from. -/
  identifiers : IdentifierSource := {}
  /-- How many drivers have been asked for. -/
  drivers : Nat := 0
  /-- How many sessions have been asked for. -/
  sessions : Nat := 0
  /-- The engine. -/
  engine : Engine
  /-- The transaction handles that were given out. -/
  transactions : List Transaction := []
  /-- The handle that the client began last. -/
  current? : Option Nat := none
  /-- Whether the client writes identifiers without hyphens; anything empty says no. -/
  stripHyphens : Value := .bool false

namespace World

variable {σ : Type}

/-- The time in milliseconds, as timestamps give it. -/
def now (w : World σ) : Float := w.clock * 1000

/-- The next identifier, in the form that the client gives it. -/
def nextIdentifier (w : World σ) : String :=
  IdentifierSource.written w.stripHyphens.truthy w.identifiers.next

/-- The answer to a call, and the world that remembers it. -/
def respond [Database σ] (w : World σ) (c : Call) : Except Fault Result × World σ :=
  let (answer, database) := Database.respond w.database c
  (answer, { w with database, trace := w.trace ++ [⟨c, answer⟩] })

/-- The transaction handle of a number. -/
def transaction (w : World σ) (handle : Nat) : Transaction :=
  w.transactions[handle]?.getD {}

/-- The handle that the statements of the client are routed through: the one it began last,
as long as that is active. -/
def activeHandle? (w : World σ) : Option Nat :=
  w.current?.filter fun handle => (w.transaction handle).isActive

end World

/-- A step from one world to the next, with an outcome. -/
abbrev Action (σ α : Type) := ExceptT Failure (StateM (World σ)) α

namespace Action

variable {σ α β : Type}

/-- The outcome of an action and the world it leaves. -/
def perform (a : Action σ α) (w : World σ) : Except Failure α × World σ := StateT.run a.run w

/-- The action with a given outcome and a given world to leave. -/
def ofStep (step : World σ → Except Failure α × World σ) : Action σ α := ExceptT.mk step

/-- The outcome of something that needs no world. -/
def ofOutcome (e : Except Failure α) : Action σ α := ExceptT.mk (pure e)

/-- An action that fails. -/
def fail (e : Failure) : Action σ α := ofOutcome (.error e)

/-- An action followed by another, whether it fails or not. If the second fails, its failure
is the one that counts. -/
def ensuring (body : Action σ α) (cleanup : Action σ Unit) : Action σ α :=
  ofStep fun w =>
    let (outcome, w) := body.perform w
    match cleanup.perform w with
    | (.ok _, w) => (outcome, w)
    | (.error e, w) => (.error e, w)

/-- An action followed by another if it fails. If the second fails too, its failure is the
one that counts. -/
def onFailure (body : Action σ α) (cleanup : Action σ Unit) : Action σ α :=
  ofStep fun w =>
    match body.perform w with
    | (.ok a, w) => (.ok a, w)
    | (.error e, w) => match cleanup.perform w with
      | (.ok _, w) => (.error e, w)
      | (.error f, w) => (.error f, w)

/-- The outcome of an action as a value. -/
def attempt (a : Action σ α) : Action σ (Except Failure α) :=
  ofStep fun w =>
    let (outcome, w) := a.perform w
    (.ok outcome, w)

/-- A note in the log. -/
def note (level : LogLevel) (origin : LogOrigin) (message : String) : Action σ Unit :=
  modify fun w => { w with log := w.log ++ [⟨level, origin, message⟩] }

/-- A call to the driver. -/
def call [Database σ] (c : Call) : Action σ Result :=
  ofStep fun w =>
    let (answer, w) := w.respond c
    (answer.mapError .fault, w)

/-- The next identifier, drawn from its source. -/
def drawIdentifier : Action σ String :=
  modifyGet fun w => (w.nextIdentifier, { w with identifiers := w.identifiers.advance })

/-! ### What an action does -/

@[simp] theorem perform_ofStep (step : World σ → Except Failure α × World σ) (w : World σ) :
    (ofStep step).perform w = step w := rfl

@[simp] theorem perform_pure (a : α) (w : World σ) :
    (pure a : Action σ α).perform w = (.ok a, w) := rfl

@[simp] theorem perform_ofOutcome (e : Except Failure α) (w : World σ) :
    (ofOutcome e).perform w = (e, w) := rfl

@[simp] theorem perform_fail (e : Failure) (w : World σ) :
    (fail e : Action σ α).perform w = (.error e, w) := rfl

@[simp] theorem perform_get (w : World σ) :
    (get : Action σ (World σ)).perform w = (.ok w, w) := rfl

@[simp] theorem perform_modify (f : World σ → World σ) (w : World σ) :
    (modify f : Action σ Unit).perform w = (.ok (), f w) := rfl

@[simp] theorem perform_modifyGet (f : World σ → α × World σ) (w : World σ) :
    (modifyGet f : Action σ α).perform w = (.ok (f w).1, (f w).2) := rfl

/-- Of two actions in a row, the second acts in the world that the first leaves, unless the
first fails. -/
theorem perform_bind (a : Action σ α) (f : α → Action σ β) (w : World σ) :
    (a >>= f).perform w = match a.perform w with
      | (.ok x, v) => (f x).perform v
      | (.error e, v) => (.error e, v) := by
  show StateT.run (a.run >>= ExceptT.bindCont f) w = _
  rw [StateT.run_bind]
  unfold perform
  rcases StateT.run a.run w with ⟨_ | x, v⟩ <;> rfl

@[simp] theorem perform_note (level : LogLevel) (origin : LogOrigin) (message : String)
    (w : World σ) : (note level origin message).perform w =
      (.ok (), { w with log := w.log ++ [⟨level, origin, message⟩] }) := rfl

end Action

end GraphMapper
