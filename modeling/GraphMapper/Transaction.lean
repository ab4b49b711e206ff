import GraphMapper.Engine

/-!
# Transactions

A transaction handle goes back and forth between two states. **Beginning** opens a session
and begins a transaction in it; from then on statements can be run, until the transaction is
committed, rolled back or closed. Each of these releases the driver's transaction and the
session, also when the driver breaks down on the way. Closing a transaction that was not
committed rolls it back; closing an idle handle does nothing.
-/

namespace GraphMapper.Transaction

variable {σ : Type} [Database σ]

open GraphMapper.Action

/-- The handle of a number. -/
def get (handle : Nat) : Action σ Transaction := do
  pure ((← MonadState.get).transaction handle)

/-- The world with another state of a handle. -/
def put (handle : Nat) (t : Transaction) : Action σ Unit :=
  modify fun w => { w with transactions := w.transactions.set handle t }

/-- A new handle; its number. -/
def create (t : Transaction) : Action σ Nat :=
  modifyGet fun w => (w.transactions.length, { w with transactions := w.transactions ++ [t] })

/-- A new idle handle on a database; its number. -/
def new (database : Value) : Action σ Nat := create { database }

/-- A note of a transaction. -/
def note (message : String) : Action σ Unit := Action.note .debug .transaction message

/-- A new session with a transaction begun in it. The session is closed again if that
fails. -/
def openWork (database : Value) : Action σ Nat := do
  let session ← Engine.openSession database
  onFailure (do let _ ← call (.begin session)) (Engine.closeSession session)
  pure session

/-- The handle once a transaction has been begun in a session. -/
def begun (t : Transaction) (session : Nat) : Transaction :=
  { t with phase := .active, session? := some session, work? := some session }

/-- The handle once it holds nothing any more. -/
def released (t : Transaction) : Transaction :=
  { t with phase := .idle, session? := none, work? := none }

@[simp] theorem isActive_begun (t : Transaction) (session : Nat) :
    (t.begun session).isActive = true := rfl

@[simp] theorem isActive_released (t : Transaction) : t.released.isActive = false := rfl

/-- Note that a transaction has been begun. -/
def noteBegun : Action σ Unit := do
  note ("Transaction begun on " ++ (← Engine.current).connection.uri.display)

/-- Begin. -/
def begin (handle : Nat) : Action σ Unit := do
  let t ← get handle
  if t.isActive then fail (.transaction .alreadyActive)
  else
    let session ← openWork t.database
    put handle (t.begun session)
    noteBegun

/-- Run a statement in the transaction. -/
def run (handle : Nat) (statement : String) (parameters : Value) : Action σ Result := do
  let t ← get handle
  match t.phase, t.work? with
  | .active, some work => Engine.runOn (.transaction work) statement parameters
  | _, _ => fail (.transaction .notActive)

/-- Release what the handle holds: first the driver's transaction, then the session. -/
def dispose (handle : Nat) : Action σ Unit := do
  let t ← get handle
  put handle t.released
  ensuring
    (match t.work? with
      | some work => do let _ ← call (.closeTransaction work)
      | none => pure ())
    (match t.session? with
      | some session => Engine.closeSession session
      | none => pure ())

/-- End the transaction with a call to the driver, and release what the handle holds. -/
def finish (handle : Nat) (refusal : TransactionProblem) (ending : Nat → Call) (remark : String) :
    Action σ Unit := do
  let t ← get handle
  match t.phase, t.work? with
  | .active, some work =>
    ensuring (do let _ ← call (ending work); note remark) (dispose handle)
  | _, _ => fail (.transaction refusal)

/-- Commit. -/
def commit (handle : Nat) : Action σ Unit :=
  finish handle .nothingToCommit .commit "Transaction committed"

/-- Roll back. -/
def rollback (handle : Nat) : Action σ Unit :=
  finish handle .nothingToRollBack .rollback "Transaction rolled back"

/-- Close, rolling back what was not committed. -/
def close (handle : Nat) : Action σ Unit := do
  let t ← get handle
  if t.isActive then
    note "Transaction closed without commit, rolling back"
    rollback handle
  else pure ()

/-- Enter the scope of the transaction, beginning it unless it is active. The scope is left
by closing. -/
def enter (handle : Nat) : Action σ Unit := do
  let t ← get handle
  if t.isActive then pure () else begin handle

end GraphMapper.Transaction
