import VectorTiles.Replication.Operation
import VectorTiles.Replication.Statements
import VectorTiles.Text.Quoted

/-!
# Header logs in a table

Every request borrows a connection, sends one statement and commits. Requests that name no key or
no header need no connection. What is sent in bulk is encoded before a connection is borrowed.

**Results.**

* `TableLog.perform`: the answer to a request, with what happened on the way.
-/

namespace VectorTiles
namespace Replication

open Database

/-- The items of a header in a bulk load, in the order of the columns. -/
def Header.items (header : Header) : List Copy.Item :=
  [.rowStart (Int.ofNat Table.columns.length), .long (some header.sequenceNumber),
    .timestamp header.timestamp, .text header.url, .text header.source,
    .text header.writingProgram]

def loadStream (headers : List Header) : Except Copy.Fault (List UInt8) :=
  Copy.completeStream (headers.flatMap Header.items)

namespace Table

variable {σ : Type}

/-- A statement on a cursor, and a commit behind it. -/
def committed {α : Type} (server : Server σ) (body : Session σ α) : Session σ α :=
  withConnection server do
    let result ← withCursor server body
    Session.call server .commit
    return result

/-- What a fault of the session means for the request. -/
def logFault : Fault → LogFault
  | .driver error => .database error
  | .foreign text => .foreign text

/-- Runs a committed session and reads the answer from its result. -/
def answering {α : Type} (server : Server σ) (state : σ) (body : Session σ α)
    (answer : α → Except CellFault Answer) : Except LogFault Answer × Activity σ :=
  match (committed server body).run state with
  | (.error fault, activity) => (.error (logFault fault), activity)
  | (.ok result, activity) => ((answer result).mapError .unreadable, activity)

/-- Runs a committed session that has no result. -/
def changing (server : Server σ) (state : σ) (body : Session σ Unit) :
    Except LogFault Answer × Activity σ :=
  answering server state body fun () => .ok .done

def idle (state : σ) (answer : Answer) : Except LogFault Answer × Activity σ :=
  (.ok answer, Activity.start state)

/-- What is recorded after a bulk load. -/
def loadedRecord (table : Table) (count : Nat) : Log.Record :=
  ⟨.info, "Copied " ++ toString count ++ " headers into (" ++ Text.quoted table.schema ++ ", " ++
    Text.quoted table.name ++ ")"⟩

/-- Sends the stream of a bulk load. Success is recorded. -/
def sendLoad (table : Table) (server : Server σ) (state : σ) (count : Nat) (stream : List UInt8) :
    Except LogFault Answer × Activity σ :=
  match changing server state (copyFrom server table.load stream) with
  | (.ok answer, activity) =>
    (.ok answer, { activity with records := activity.records ++ [table.loadedRecord count] })
  | failed => failed

def fetchHeaders (table : Table) (server : Server σ) : Session σ (List Row) := do
  execute server table.selectAll none
  fetchAll server

/-- The answer to a request. -/
def perform (table : Table) (server : Server σ) (state : σ) :
    Operation → Except LogFault Answer × Activity σ
  | .create => changing server state (execute server table.create none)
  | .drop => changing server state (execute server table.drop none)
  | .truncate => changing server state (execute server table.truncate none)
  | .get key =>
    answering server state
      (do
        execute server table.selectOne (some [.int key])
        fetchOne server)
      fun
        | none => .ok (.header none)
        | some row => (StoredHeader.ofRow row).map fun header => .header (some header)
  | .getMany keys =>
    if keys.isEmpty then idle state (.headers [])
    else
      answering server state
        (do
          execute server table.selectAny (some [.ints keys])
          fetchAll server)
        fun rows => (StoredHeader.ofRows rows).map fun found =>
          .headers (keys.map fun key => StoredHeader.find? key found)
  | .put header => changing server state (execute server table.upsert (some header.row))
  | .putMany headers =>
    if headers.isEmpty then idle state .done
    else changing server state (executeBatch server table.upsert (headers.map Header.row))
  | .delete key => changing server state (execute server table.delete (some [.int key]))
  | .deleteMany keys =>
    if keys.isEmpty then idle state .done
    else
      changing server state
        (executeBatch server table.delete (keys.map fun key => [Param.int key]))
  | .load headers =>
    if headers.isEmpty then idle state .done
    else
      match loadStream headers with
      | .error fault => (.error (.unwritable fault), Activity.start state)
      | .ok stream => table.sendLoad server state headers.length stream
  | .selectAll =>
    answering server state (table.fetchHeaders server) fun rows =>
      (StoredHeader.ofRows rows).map fun found => .headers (found.map some)
  | .selectLatest =>
    answering server state (table.fetchHeaders server) fun rows =>
      (StoredHeader.ofRows rows).map fun found => .header found.head?

end Table
end Replication
end VectorTiles
