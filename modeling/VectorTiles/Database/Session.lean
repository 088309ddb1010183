import VectorTiles.Database.Value
import VectorTiles.Log

/-!
# Sessions with the database

A session borrows a connection, makes calls on it and gives it back.

**Data.** A server has a state of a type of its own, and answers each call either with a result or
with a fault. A fault is an error of the driver, or an error that the driver does not know. The
calls of a session are noted in their order, those that fail included.

**Rules.** A connection is given back on every way out, unless giving it back fails itself. Its
open transaction is rolled back before; a connection that is closed, or that cannot roll back, is
given back to be discarded.

**Results.**

* `withConnection`: runs a body on a borrowed connection.
* `withCursor`: runs a body on a cursor of the connection.
-/

namespace VectorTiles
namespace Database

section Types

/-- An error of the driver: the name of its class, and its text. -/
structure DriverError where
  className : String
  text : String
  deriving DecidableEq, Repr

/-- Why a call failed. -/
inductive Fault where
  | driver (error : DriverError)
  | foreign (text : String)
  deriving DecidableEq, Repr

/-- A call to the pool, to a connection or to a cursor. -/
inductive Call where
  | takeConnection
  | openCursor
  | execute (sql : String) (params : Option (List Param))
  | executeBatch (sql : String) (rows : List (List Param))
  | fetchOne
  | fetchAll
  | copyFrom (sql : String) (stream : List UInt8)
  | closeCursor
  | commit
  | rollback
  | giveBack (discard : Bool)
  deriving DecidableEq, Repr

/-- How a pool with its connection answers the calls. -/
structure Server (σ : Type) where
  /-- A call that has no result. -/
  perform : Call → σ → Except Fault Unit × σ
  /-- The next row of the result, if there is one. -/
  fetchOne : σ → Except Fault (Option Row) × σ
  /-- The remaining rows of the result. -/
  fetchAll : σ → Except Fault (List Row) × σ
  /-- Whether the connection is closed. -/
  isClosed : σ → Bool

/-- A server in the course of a session, with what happened so far. -/
structure Activity (σ : Type) where
  server : σ
  calls : List Call
  records : List Log.Record

/-- The beginning of a session. -/
def Activity.start {σ : Type} (server : σ) : Activity σ :=
  ⟨server, [], []⟩

/-- A computation that may make calls and may fail. -/
abbrev Session (σ α : Type) := ExceptT Fault (StateM (Activity σ)) α

end Types

namespace Session

variable {σ α : Type}

def run (session : Session σ α) (server : σ) : Except Fault α × Activity σ :=
  session (Activity.start server)

/-- Notes a call and lets the server answer it. -/
def answered (call : Call) (answer : σ → Except Fault α × σ) : Session σ α := fun activity =>
  let (result, server) := answer activity.server
  (result, { activity with server := server, calls := activity.calls ++ [call] })

/-- Makes a call without result. -/
def call (server : Server σ) (call : Call) : Session σ Unit :=
  answered call (server.perform call)

/-- Notes a call that cannot fail and that the server is not asked about. -/
def note (call : Call) : Session σ Unit :=
  answered call fun state => (.ok (), state)

def record (record : Log.Record) : Session σ Unit := fun activity =>
  (.ok (), { activity with records := activity.records ++ [record] })

/-- Runs a session and goes on with its outcome, whatever it is. -/
def outcome (session : Session σ α) : Session σ (Except Fault α) := fun activity =>
  let (result, activity) := session activity
  (.ok result, activity)

/-- Succeeds or fails as an earlier outcome says. -/
def conclude (result : Except Fault α) : Session σ α := fun activity =>
  (result, activity)

def isClosed (server : Server σ) : Session σ Bool := fun activity =>
  (.ok (server.isClosed activity.server), activity)

end Session

section Borrowing

open Session

variable {σ α : Type}

def execute (server : Server σ) (sql : String) (params : Option (List Param)) : Session σ Unit :=
  call server (.execute sql params)

/-- Executes a statement once for each list of parameters. -/
def executeBatch (server : Server σ) (sql : String) (rows : List (List Param)) : Session σ Unit :=
  call server (.executeBatch sql rows)

def fetchOne (server : Server σ) : Session σ (Option Row) :=
  answered .fetchOne server.fetchOne

/-- The remaining rows of the result. -/
def fetchAll (server : Server σ) : Session σ (List Row) :=
  answered .fetchAll server.fetchAll

/-- Sends a stream of rows. -/
def copyFrom (server : Server σ) (sql : String) (stream : List UInt8) : Session σ Unit :=
  call server (.copyFrom sql stream)

/-- What is recorded when a connection cannot roll back. -/
def discardedRecord : Log.Record :=
  ⟨.warning, "Discarding connection that failed to roll back"⟩

/-- Gives the connection back. -/
def handBack (server : Server σ) : Session σ Unit := do
  if ← isClosed server then call server (.giveBack true)
  else
    match ← outcome (call server .rollback) with
    | .ok () => call server (.giveBack false)
    | .error (.driver _) =>
      record discardedRecord
      call server (.giveBack true)
    | .error fault => throw fault

/-- Runs a body on a borrowed connection. What goes wrong while the connection is given back takes
the place of the outcome of the body. -/
def withConnection (server : Server σ) (body : Session σ α) : Session σ α := do
  call server .takeConnection
  let result ← outcome body
  handBack server
  conclude result

/-- Runs a body on a cursor, which is closed on every way out. -/
def withCursor (server : Server σ) (body : Session σ α) : Session σ α := do
  call server .openCursor
  let result ← outcome body
  note .closeCursor
  conclude result

end Borrowing
end Database
end VectorTiles
