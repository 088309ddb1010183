import VectorTiles.Database.Session

/-!
# Scripted connections

A server that answers as it is told to: with given rows, and with a fault at given points.

**Results.**

* `Script.server`: the server of a script, whose states are `Script.State`.
-/

namespace VectorTiles
namespace Database

/-- The kinds of calls that can fail. -/
inductive CallPoint where
  | takeConnection
  | openCursor
  | execute
  | executeBatch
  | fetchOne
  | fetchAll
  | copyFrom
  | commit
  | rollback
  | giveBack
  deriving DecidableEq, Repr

/-- Where a call may fail; closing a cursor never does. -/
def Call.point? : Call → Option CallPoint
  | takeConnection => some .takeConnection
  | openCursor => some .openCursor
  | execute _ _ => some .execute
  | executeBatch _ _ => some .executeBatch
  | fetchOne => some .fetchOne
  | fetchAll => some .fetchAll
  | copyFrom _ _ => some .copyFrom
  | closeCursor => none
  | commit => some .commit
  | rollback => some .rollback
  | giveBack _ => some .giveBack

/-- How a connection behaves. -/
structure Script where
  /-- The rows of every result, until they have been fetched. -/
  rows : List Row
  /-- The faults, by the points at which they are raised. -/
  faults : CallPoint → Option Fault
  /-- Whether the connection is closed from the beginning. -/
  closed : Bool
  /-- What a fault makes of the connection, unless it leaves it as it is. -/
  closedOnFault : Option Bool

namespace Script

/-- A connection in the course of a session. -/
structure State where
  rows : List Row
  closed : Bool
  deriving DecidableEq, Repr

def start (script : Script) : State :=
  ⟨script.rows, script.closed⟩

def afterFault (script : Script) (state : State) : State :=
  { state with closed := script.closedOnFault.getD state.closed }

/-- Answers a call unless the script has a fault for it. -/
def answer {α : Type} (script : Script) (point : Option CallPoint)
    (answer : State → α × State) (state : State) : Except Fault α × State :=
  match point.bind script.faults with
  | some fault => (.error fault, script.afterFault state)
  | none => (.ok (answer state).1, (answer state).2)

/-- The server that follows a script. -/
def server (script : Script) : Server State where
  perform call := script.answer call.point? fun state => ((), state)
  fetchOne := script.answer (some .fetchOne) fun state =>
    (state.rows.head?, { state with rows := state.rows.tail })
  fetchAll := script.answer (some .fetchAll) fun state =>
    (state.rows, { state with rows := [] })
  isClosed state := state.closed

end Script
end Database
end VectorTiles
