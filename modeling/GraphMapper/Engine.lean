import GraphMapper.Value.Order
import GraphMapper.World

/-!
# The engine

The engine holds the driver. It is connected and closed; while it is connected, sessions can
be opened, and a statement can be run in a session of its own, which is closed afterwards
whatever happens.
-/

namespace GraphMapper

namespace Engine

/-- The options of a driver when none are given. -/
def standardConfig : List (String × Value) :=
  [("connection_timeout", .int 30), ("max_connection_lifetime", .int 3600),
    ("keep_alive", .bool true), ("user_agent", .text "NeoClient/0.1.0")]

/-- An engine that is not connected; the given options take precedence over the standard
ones. -/
def ofConfig (uri : Value) (auth : Option (String × String)) (database : Value)
    (config : List (String × Value)) : Engine :=
  { connection := ⟨uri, auth, Assoc.update standardConfig config⟩, database }

variable {σ : Type} [Database σ]

open GraphMapper.Action

/-- The engine of the world. -/
def current : Action σ Engine := do pure (← get).engine

/-- The world with another link of the engine. -/
def setLink (link : Link) : Action σ Unit :=
  modify fun w => { w with engine := { w.engine with link } }

/-- The number of the next driver. -/
def nextDriver : Action σ Nat :=
  modifyGet fun w => (w.drivers + 1, { w with drivers := w.drivers + 1 })

/-- The number of the next session. -/
def nextSession : Action σ Nat :=
  modifyGet fun w => (w.sessions + 1, { w with sessions := w.sessions + 1 })

/-- A note of the engine. -/
def note (level : LogLevel) (message : String) : Action σ Unit :=
  Action.note level .engine ("GraphEngine: " ++ message)

/-! ### Connecting and closing -/

/-- A driver, created and checked. -/
def openDriver (connection : Connection) : Action σ Nat := do
  let driver ← nextDriver
  let _ ← call (.openDriver driver connection)
  let _ ← call (.verify driver)
  pure driver

/-- Connect, unless the engine is connected. If that fails the engine has no driver. -/
def connect : Action σ Unit := do
  let engine ← current
  if engine.link.isUp then pure ()
  else
    let uri := engine.connection.uri.display
    note .info ("Connecting to " ++ uri ++ " (default session DB: '" ++ engine.database.display
      ++ "')...")
    match ← attempt (openDriver engine.connection) with
    | .ok driver =>
      setLink (.up driver)
      note .info ("Successfully connected to " ++ uri ++ ".")
    | .error e =>
      setLink .down
      note .error ("Connection to " ++ uri ++ " failed: " ++ e.message)
      fail (.connectionFailed uri e.message)

/-- Connect several times in a row, and report the first failure in the end. -/
def connectMany : Nat → Action σ Unit
  | 0 => pure ()
  | n + 1 => do
    let first ← attempt connect
    let rest ← attempt (connectMany n)
    ofOutcome (first.bind fun _ => rest)

/-- Close the driver, if there is one. A driver that cannot be closed is kept. -/
def close : Action σ Unit := do
  let engine ← current
  let uri := engine.connection.uri.display
  match engine.link with
  | .down => pure ()
  | .up driver =>
    note .info ("Closing connection to " ++ uri ++ "...")
    let _ ← call (.closeDriver driver)
    setLink .down
    note .info ("Connection to " ++ uri ++ " closed.")
  | .unverified driver =>
    note .warning ("Driver for " ++ uri
      ++ " exists but was not fully connected. Attempting close.")
    let _ ← call (.closeDriver driver)
    setLink .down

/-- Hand the engine a driver that nobody has checked. An engine that is connected goes on as
such. -/
def attachUnverified : Action σ Unit := do
  let engine ← current
  let driver ← nextDriver
  setLink (if engine.link.isUp then .up driver else .unverified driver)

/-! ### Sessions and statements -/

/-- The driver of a connected engine. -/
def driver : Action σ Nat := do
  let engine ← current
  match engine.link with
  | .up driver => pure driver
  | _ => fail (.notConnected engine.connection.uri.display)

/-- The database that is meant by a name; anything empty means that of the engine. -/
def databaseOf (engine : Engine) (name : Value) : Value :=
  if name.truthy then name else engine.database

/-- A new session on a database. -/
def openSession (database : Value) : Action σ Nat := do
  let _ ← driver
  let session ← nextSession
  let _ ← call (.openSession session ((← current).databaseOf database))
  pure session

/-- Close a session. -/
def closeSession (session : Nat) : Action σ Unit := do
  let _ ← call (.closeSession session)

/-- The names of parameters, in order. What cannot be gone through, or put in order, has
none. -/
def parameterNames (parameters : Value) : Except Failure (List Value) :=
  match parameters.elements?.bind Value.ordered? with
  | some names => .ok names
  | none => .error (.misuse .wrongKind)

/-- Run a statement and fetch its result; anything empty stands for no parameters. -/
def runOn (runner : Runner) (statement : String) (parameters : Value) : Action σ Result := do
  let parameters := if parameters.truthy then parameters else .map []
  let names ← ofOutcome (parameterNames parameters)
  Action.note .debug .engine
    ("Running statement: " ++ statement ++ " (parameters: " ++ (Value.list names).written ++ ")")
  let result ← call (.run runner statement parameters)
  let _ ← call .consume
  pure result

/-- Run a statement in a session of its own. -/
def execute (database : Value) (statement : String) (parameters : Value) : Action σ Result := do
  let session ← openSession database
  ensuring (runOn (.session session) statement parameters) (closeSession session)

end Engine

end GraphMapper
