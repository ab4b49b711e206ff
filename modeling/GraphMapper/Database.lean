import GraphMapper.Node

/-!
# The database driver

The library talks to a database through a driver: it opens sessions and transactions, runs
statements and fetches their results. This file says what can be asked of a driver, a
`Call`, and what comes back. A `Database` is anything that answers calls, each with a result
or a fault, and may remember the calls before.
-/

namespace GraphMapper

/-- One row of a result: values by the names of their columns, in order. -/
structure Record where
  /-- The columns. -/
  columns : List (String × Value)

namespace Record

/-- The first column, null if there is none. -/
def first (r : Record) : Value :=
  match r.columns with
  | [] => .null
  | (_, v) :: _ => v

/-- The row as a map, the last of equal columns counting and nodes turned into maps. -/
def data (r : Record) : Value :=
  .ofEntries (Value.ofNames (r.columns.map fun c => (c.1, c.2.withoutNodes)))

end Record

/-- How much a statement changed. -/
structure Counters where
  /-- Nodes created. -/
  nodesCreated : Int := 0
  /-- Nodes deleted. -/
  nodesDeleted : Int := 0
  /-- Edges created. -/
  relationshipsCreated : Int := 0
  /-- Edges deleted. -/
  relationshipsDeleted : Int := 0
  /-- Labels added. -/
  labelsAdded : Int := 0
  deriving DecidableEq, Repr

/-- The result of a statement. -/
structure Result where
  /-- The rows, in order. -/
  records : List Record := []
  /-- How much was changed. -/
  counters : Counters := {}

/-- The node of interest of a result: the first column of the first row. -/
def Result.firstValue (r : Result) : Value :=
  match r.records with
  | [] => .null
  | record :: _ => record.first

/-- What a statement runs on. -/
inductive Runner where
  /-- A session, which commits by itself. -/
  | session (number : Nat)
  /-- The transaction begun in a session. -/
  | transaction (number : Nat)
  deriving DecidableEq, Repr

/-- Where a driver connects to, and how. -/
structure Connection where
  /-- The address of the database, a text as a rule. -/
  uri : Value
  /-- The credentials. -/
  auth : Option (String × String)
  /-- Options for the driver. -/
  config : List (String × Value)

/-- What can be asked of a driver. Drivers and sessions are numbered from one; a transaction
has the number of its session. -/
inductive Call where
  /-- Create a driver. -/
  | openDriver (driver : Nat) (connection : Connection)
  /-- Check that a driver reaches the database. -/
  | verify (driver : Nat)
  /-- Close a driver. -/
  | closeDriver (driver : Nat)
  /-- Open a session on a database, which a text names as a rule. -/
  | openSession (session : Nat) (database : Value)
  /-- Close a session. -/
  | closeSession (session : Nat)
  /-- Begin a transaction in a session. -/
  | begin (session : Nat)
  /-- Run a statement with its parameters, a map as a rule. -/
  | run (runner : Runner) (statement : String) (parameters : Value)
  /-- Fetch the summary of the result of the last statement. -/
  | consume
  /-- Commit a transaction. -/
  | commit (session : Nat)
  /-- Roll a transaction back. -/
  | rollback (session : Nat)
  /-- Close a transaction. -/
  | closeTransaction (session : Nat)

/-- Something that answers calls. Only running a statement has a result worth the name; the
result of every other call is empty. -/
class Database (σ : Type) where
  /-- The answer to a call, and what is remembered from then on. -/
  respond : σ → Call → Except Fault Result × σ

end GraphMapper
