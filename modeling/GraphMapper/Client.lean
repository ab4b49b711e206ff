import GraphMapper.Operation.Request
import GraphMapper.Related
import GraphMapper.Settings
import GraphMapper.Transaction

/-!
# The client

The client performs operations. It routes every statement through the transaction it began
last, as long as that is active, and otherwise runs it in a session of its own. At most one
transaction is active at a time: beginning another rolls the active one back.
-/

namespace GraphMapper.Client

open GraphMapper.Action

/-- Whether a value is missing where a text is wanted: it is empty, or it is blank. Only
texts can be blank. -/
def isMissing (v : Value) : Except Failure Bool :=
  match v with
  | .text s => .ok (Text.isBlank s)
  | v => if v.truthy then .error (.misuse .missingFeature) else .ok true

/-- The credentials that two values make, none if one of them is missing. -/
def credentialsOf (username password : Value) : Except Failure (Option (String × String)) := do
  if ← isMissing username then pure none
  else if ← isMissing password then pure none
  else pure (credentials username.text? password.text?)

/-- The engine for a client, from an address and credentials. An address is needed, and
credentials of which one is missing count for nothing. -/
def engineFor (uri username password database : Value) (config : List (String × Value)) :
    Except Failure Engine := do
  if ← isMissing uri then throw (.argument "uri" "A URI or an engine is required")
  pure (Engine.ofConfig uri (← credentialsOf username password) database config)

/-- The engine for a client, from settings. -/
def engineOfSettings (s : Settings) : Except Failure Engine :=
  let part (f : String × String → String) : Value :=
    (s.auth.map fun a => Value.text (f a)).getD .null
  engineFor (.text s.uri) (part Prod.fst) (part Prod.snd) (.text s.database) s.driverConfig

/-- A short description of a client. -/
def summary (engine : Engine) : String :=
  "NeoClient(uri='" ++ engine.connection.uri.display ++ "', "
    ++ (if engine.link.isUp then "connected" else "disconnected") ++ ")"

variable {σ : Type} [Database σ]

/-- The handle that statements are routed through, if there is one. -/
def activeHandle? : Action σ (Option Nat) := do pure (← get).activeHandle?

/-- The world with another handle that the client began last. -/
def setCurrent (handle? : Option Nat) : Action σ Unit :=
  modify fun w => { w with current? := handle? }

/-- Run a statement in the active transaction, or else in a session of its own. -/
def execute (statement : String) (parameters : Value) : Action σ Result := do
  match ← activeHandle? with
  | some handle => Transaction.run handle statement parameters
  | none => Engine.execute .null statement parameters

/-! ### Transactions -/

/-- Begin a transaction, rolling back the one that is active; its handle. -/
def beginTransaction : Action σ Nat := do
  if let some handle ← activeHandle? then
    note .warning .client
      "Beginning a new transaction while one is active; rolling back the previous one"
    Transaction.rollback handle
  let database := (← Engine.current).database
  let session ← Transaction.openWork database
  let idle : Transaction := { database }
  let handle ← Transaction.create (idle.begun session)
  Transaction.noteBegun
  setCurrent (some handle)
  pure handle

/-- Roll back the transaction begun last, if it is active, and close the engine. -/
def close : Action σ Unit :=
  ensuring
    (do if let some handle := (← get).current? then Transaction.close handle)
    (do setCurrent none; Engine.close)

/-! ### Requests -/

/-- The entity with some properties. -/
def entityOf (c : Catalog) (type : EntityRef) (properties : Option Entries) :
    Action σ Value := do
  ofOutcome (c.mapNode (← get).now type properties)

/-- The node of interest of a result, as an entity. -/
def readNode (c : Catalog) (type : EntityRef) (result : Result) : Action σ Value := do
  entityOf c type (← ofOutcome result.firstValue.nodeProperties)

/-- The entity with some properties and the related nodes. -/
def entityWithRelated (c : Catalog) (type : EntityRef) (properties : Value) :
    Action σ Value := do
  entityOf c type (some (← Related.withRelated c execute (.type (.entity type)) properties))

/-- The properties of a node as a map, null if there is no node. -/
def propertiesOf (v : Value) : Action σ Value := do
  match ← ofOutcome v.nodeProperties with
  | some properties => pure (.map properties)
  | none => pure .null

/-- The nodes in some rows with their related nodes, as entities. -/
def readNodesWithRelated (c : Catalog) (type : EntityRef) :
    List Record → Action σ (List Value)
  | [] => pure []
  | record :: rest => do
    let properties ← propertiesOf record.first
    let entity ← entityWithRelated c type properties
    let entities ← readNodesWithRelated c type rest
    pure (entity :: entities)

/-- The nodes in some rows, as entities; rows without a node are left out. -/
def readNodes (c : Catalog) (type : EntityRef) : List Record → Action σ (List Value)
  | [] => pure []
  | record :: rest => do
    match ← ofOutcome record.first.nodeProperties with
    | none => readNodes c type rest
    | some properties =>
      let entity ← entityOf c type (some properties)
      let entities ← readNodes c type rest
      pure (entity :: entities)

/-- What is made of the result of a request. -/
def read (c : Catalog) (request : Request) (result : Result) : Action σ Value :=
  match request.reading with
  | .createdNode type label identifier => do
    if result.counters.nodesCreated = 0 then fail (.nodeNotCreated label request.statement)
    else
      note .debug .client ("Created " ++ label ++ " " ++ identifier)
      readNode c type result
  | .node type => readNode c type result
  | .nodeWithRelated type => do
    match ← ofOutcome result.firstValue.nodeProperties with
    | none => pure .null
    | some properties => entityWithRelated c type (.map properties)
  | .nodesWithRelated type => do
    pure (.list (← readNodesWithRelated c type result.records))
  | .nodes type => do pure (.list (← readNodes c type result.records))
  | .rows => pure (.list (result.records.map Record.data))
  | .nothing => pure .null
  | .isOne => pure (.bool (result.firstValue == .int 1))
  | .droppedOne => pure (.bool (result.counters.nodesDeleted = 1))
  | .droppedCount => pure (.int result.counters.nodesDeleted)
  | .createdEdge => pure (.bool (1 ≤ result.counters.relationshipsCreated))
  | .droppedEdge => pure (.bool (1 ≤ result.counters.relationshipsDeleted))
  | .addedLabel label uuid =>
    if result.counters.labelsAdded = 0 then fail (.labelNotAdded label uuid request.statement)
    else pure (.bool true)

/-- Run the statement of a request and read its result. -/
def send (c : Catalog) (request : Request) : Action σ Value := do
  let result ← execute request.statement request.parameters
  read c request result

/-- The request that an operation makes now. An identifier is only drawn for a request that
has come about. -/
def prepare (c : Catalog) (operation : Operation) : Action σ Request := do
  let w ← get
  let request ← ofOutcome (operation.request c w.now w.nextIdentifier)
  if operation.needsIdentifier then
    let _ ← drawIdentifier
    pure request
  else pure request

/-- Perform an operation. -/
def perform (c : Catalog) (operation : Operation) : Action σ Value := do
  let request ← prepare c operation
  send c request

/-- Find out whether the database answers. -/
def ping (c : Catalog) : Action σ Value := send c Request.ping

end GraphMapper.Client
