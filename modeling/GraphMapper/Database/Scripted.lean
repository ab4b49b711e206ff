import GraphMapper.Database

/-!
# A scripted database

For trying things out: a database that answers statements with results prepared in advance,
and breaks down where it has been told to. A planned fault waits at one kind of call; it may
let some calls pass first. Of several that wait at the same kind, only the oldest is looked
at.
-/

namespace GraphMapper

/-- The kinds of call at which a fault can be planned. -/
inductive FaultPoint where
  /-- Creating a driver. -/
  | driver
  /-- Checking a driver. -/
  | verify
  /-- Closing a driver. -/
  | driverClose
  /-- Opening a session. -/
  | session
  /-- Closing a session. -/
  | sessionClose
  /-- Beginning a transaction. -/
  | begin
  /-- Running a statement. -/
  | run
  /-- Fetching a summary. -/
  | consume
  /-- Committing. -/
  | commit
  /-- Rolling back. -/
  | rollback
  /-- Closing a transaction. -/
  | transactionClose
  deriving DecidableEq, Repr

/-- The kind of a call. -/
def Call.point : Call → FaultPoint
  | openDriver _ _ => .driver
  | verify _ => .verify
  | closeDriver _ => .driverClose
  | openSession _ _ => .session
  | closeSession _ => .sessionClose
  | begin _ => .begin
  | run _ _ _ => .run
  | consume => .consume
  | commit _ => .commit
  | rollback _ => .rollback
  | closeTransaction _ => .transactionClose

/-- A fault that waits to happen. -/
structure PlannedFault where
  /-- Where it waits. -/
  point : FaultPoint
  /-- The fault. -/
  fault : Fault
  /-- How many calls still pass. -/
  after : Nat := 0

/-- A database that follows a script. -/
structure Scripted where
  /-- The results of the next statements. -/
  results : List Result := []
  /-- The faults to come, the oldest first. -/
  faults : List PlannedFault := []

namespace Scripted

/-- The fault that happens at a call, if one does, and the faults still to come. -/
def strike (point : FaultPoint) : List PlannedFault → Option Fault × List PlannedFault
  | [] => (none, [])
  | p :: rest =>
    if p.point = point then
      match p.after with
      | 0 => (some p.fault, rest)
      | n + 1 => (none, { p with after := n } :: rest)
    else
      let (fault, rest) := strike point rest
      (fault, p :: rest)

/-- The answer to a call. A statement that breaks down takes no result with it. -/
def respond (s : Scripted) (call : Call) : Except Fault Result × Scripted :=
  let (fault, faults) := strike call.point s.faults
  let s := { s with faults }
  match fault with
  | some f => (.error f, s)
  | none => match call, s.results with
    | .run _ _ _, result :: results => (.ok result, { s with results })
    | _, _ => (.ok {}, s)

instance : Database Scripted := ⟨respond⟩

end Scripted

end GraphMapper
