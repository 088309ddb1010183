import VectorTiles.Database.Script
import VectorTiles.Proofs.Database.Borrowing
import VectorTiles.Replication.TableLog
import VectorTiles.Tile.Store

/-!
# Uses of the pool

A connection is borrowed directly, to render a tile, or for a request to the header table.

**Data.** A use names what is asked for. It may turn out that no connection is needed: the tile is
empty or cannot be asked for, or there is nothing to write.

**Rules.** Every use is a borrowing with a body of its own. What is recorded before and behind the
borrowing makes no calls.

**Results.**

* `Use.isReturnedOnce_iff`: when a connection is given back.
* `Use.isReturnedClean`: what is given back to be used again.
-/

namespace VectorTiles
namespace Database

open Session Tile Replication

variable {σ : Type}

/-- Calls and a fault are those of a borrowing; without a borrowing there are none. -/
def Matches (server : Server σ) (state : σ) (calls : List Call) (fault : Option Fault) :
    Option (Borrowing σ) → Prop
  | none => calls = [] ∧ fault = none
  | some borrowing =>
    calls = (borrowing.run server state).2.calls ∧ fault = faultOf? (borrowing.run server state).1

section Rendering

/-- The borrowing that executes a statement for a coordinate. -/
def rendering (server : Server σ) (statement : Statement) (coord : TileCoord)
    (records : List Log.Record) : Borrowing σ where
  Result := Option Row
  body := withCursor server do
    Database.execute server statement.sql (some ((statement.bind coord).map Param.int))
    fetchOne server
  leavesPool :=
    ((LeavesPool.answered rfl _).bind fun _ => LeavesPool.answered rfl _).withCursor server
  records := records

/-- A statement is executed for the coordinates of its own zoom level. -/
def rendering? (server : Server σ) (statement : Statement) (coord : TileCoord)
    (records : List Log.Record) : Option (Borrowing σ) :=
  if statement.zoom ≠ coord.z then none else some (rendering server statement coord records)

/-- The borrowing of a store that reads a tile. -/
def readBorrowing? (server : Server σ) (store : Store) (coord : TileCoord) : Option (Borrowing σ) :=
  if !coord.isOnGrid then none
  else
    let answer := store.cache.get store.tileset coord.z
    match answer.statement with
    | .error _ => none
    | .ok statement =>
      if statement.isEmpty then none else rendering? server statement coord answer.records

/-- The fault of the session that a reader is told about. -/
def readFault? : Except ReadFault (Option (List UInt8)) → Option Fault
  | .error (.execution _ _ error) => some (.driver error)
  | .error (.foreign text) => some (.foreign text)
  | _ => none

variable {server : Server σ} {state : σ} {statement : Statement} {coord : TileCoord}
  {records : List Log.Record} {store : Store}

theorem matches_execute (tileset : String) :
    Matches server state (Tile.execute server tileset statement coord ⟨state, [], records⟩).2.calls
      (readFault? (Tile.execute server tileset statement coord ⟨state, [], records⟩).1)
      (rendering? server statement coord records) := by
  rw [Tile.execute, rendering?]
  split_ifs with hzoom
  · exact ⟨rfl, rfl⟩
  · have hrun : renderSession server statement coord ⟨state, [], records⟩ =
        (rendering server statement coord records).run server state := rfl
    rw [hrun, Matches]
    rcases (rendering server statement coord records).run server state with ⟨fault | row, behind⟩
    · cases fault <;> exact ⟨rfl, rfl⟩
    · refine ⟨rfl, ?_⟩
      cases hrow : tileOfRow row <;> simp [hrow, Except.mapError, readFault?, faultOf?]

theorem matches_read : Matches server state (store.read server coord state).activity.calls
    (readFault? (store.read server coord state).outcome) (readBorrowing? server store coord) := by
  rw [Store.read, readBorrowing?]
  split_ifs with hgrid
  · exact ⟨rfl, rfl⟩
  · cases hanswer : (store.cache.get store.tileset coord.z).statement with
    | error fault => simp [hanswer, Matches, readFault?]
    | ok statement =>
        by_cases hempty : statement.isEmpty = true
        · simp [hanswer, hempty, Matches, readFault?]
        · simp only [hanswer, hempty]
          exact matches_execute _

end Rendering

section Requests

/-- The borrowing of a request to the table: a statement on a cursor, and a commit behind it. -/
def committing {α : Type} (server : Server σ) (body : Session σ α) (h : LeavesPool body) :
    Borrowing σ where
  Result := α
  body := do
    let result ← withCursor server body
    call server .commit
    return result
  leavesPool := (h.withCursor server).bind fun result =>
    (LeavesPool.answered rfl _).bind fun _ => LeavesPool.pure result
  records := []

theorem leavesPool_fetchHeaders (table : Table) (server : Server σ) :
    LeavesPool (table.fetchHeaders server) :=
  (LeavesPool.answered rfl _).bind fun _ => LeavesPool.answered rfl _

/-- The borrowing of a request. -/
def requestBorrowing? (server : Server σ) (table : Table) : Operation → Option (Borrowing σ)
  | .create => some (committing server (execute server table.create none) (.answered rfl _))
  | .drop => some (committing server (execute server table.drop none) (.answered rfl _))
  | .truncate => some (committing server (execute server table.truncate none) (.answered rfl _))
  | .get key => some <| committing server
      (do
        execute server table.selectOne (some [.int key])
        fetchOne server)
      (.bind (.answered rfl _) fun _ => .answered rfl _)
  | .getMany keys =>
    if keys.isEmpty then none
    else some <| committing server
      (do
        execute server table.selectAny (some [.ints keys])
        fetchAll server)
      (.bind (.answered rfl _) fun _ => .answered rfl _)
  | .put header =>
    some (committing server (execute server table.upsert (some header.row)) (.answered rfl _))
  | .putMany headers =>
    if headers.isEmpty then none
    else some <| committing server
      (executeBatch server table.upsert (headers.map Header.row)) (.answered rfl _)
  | .delete key =>
    some (committing server (execute server table.delete (some [.int key])) (.answered rfl _))
  | .deleteMany keys =>
    if keys.isEmpty then none
    else some <| committing server
      (executeBatch server table.delete (keys.map fun key => [Param.int key])) (.answered rfl _)
  | .load headers =>
    if headers.isEmpty then none
    else
      match loadStream headers with
      | .error _ => none
      | .ok stream => some (committing server (copyFrom server table.load stream) (.answered rfl _))
  | .selectAll =>
    some (committing server (table.fetchHeaders server) (leavesPool_fetchHeaders table server))
  | .selectLatest =>
    some (committing server (table.fetchHeaders server) (leavesPool_fetchHeaders table server))

/-- The fault of the session that whoever makes a request is told about. -/
def requestFault? : Except LogFault Answer → Option Fault
  | .error (.database error) => some (.driver error)
  | .error (.foreign text) => some (.foreign text)
  | _ => none

variable {server : Server σ} {state : σ} {α : Type}

theorem matches_answering {body : Session σ α} (h : LeavesPool body)
    (answer : α → Except CellFault Answer) :
    Matches server state (Table.answering server state body answer).2.calls
      (requestFault? (Table.answering server state body answer).1)
      (some (committing server body h)) := by
  have hrun : (Table.committed server body).run state =
      (committing server body h).run server state := rfl
  rw [Table.answering, hrun, Matches]
  rcases (committing server body h).run server state with ⟨fault | result, behind⟩
  · cases fault <;> exact ⟨rfl, rfl⟩
  · refine ⟨rfl, ?_⟩
    cases hanswer : answer result <;> simp [hanswer, Except.mapError, requestFault?, faultOf?]

theorem matches_changing {body : Session σ Unit} (h : LeavesPool body) :
    Matches server state (Table.changing server state body).2.calls
      (requestFault? (Table.changing server state body).1) (some (committing server body h)) :=
  matches_answering h _

/-- A record behind the session makes no call. -/
theorem matches_sendLoad (table : Table) (count : Nat) (stream : List UInt8) :
    Matches server state (table.sendLoad server state count stream).2.calls
      (requestFault? (table.sendLoad server state count stream).1)
      (some (committing server (copyFrom server table.load stream) (.answered rfl _))) := by
  have hleaves : LeavesPool (copyFrom server table.load stream) := .answered rfl _
  have hchanging : Matches server state _ _ (some (committing server _ hleaves)) :=
    matches_changing hleaves
  rw [Table.sendLoad]
  rcases hload : Table.changing server state (copyFrom server table.load stream) with
    ⟨fault | answer, behind⟩
  · rw [hload] at hchanging
    exact hchanging
  · rw [hload] at hchanging
    exact hchanging

theorem matches_perform (table : Table) (operation : Operation) :
    Matches server state (table.perform server state operation).2.calls
      (requestFault? (table.perform server state operation).1)
      (requestBorrowing? server table operation) := by
  have hidle (answer : Answer) : Matches server state (Table.idle state answer).2.calls
      (requestFault? (Table.idle state answer).1) none := ⟨rfl, rfl⟩
  cases operation with
  | create => exact matches_changing _
  | drop => exact matches_changing _
  | truncate => exact matches_changing _
  | get key => exact matches_answering _ _
  | getMany keys =>
      rw [Table.perform, requestBorrowing?]
      split_ifs
      · exact hidle _
      · exact matches_answering _ _
  | put header => exact matches_changing _
  | putMany headers =>
      rw [Table.perform, requestBorrowing?]
      split_ifs
      · exact hidle _
      · exact matches_changing _
  | delete key => exact matches_changing _
  | deleteMany keys =>
      rw [Table.perform, requestBorrowing?]
      split_ifs
      · exact hidle _
      · exact matches_changing _
  | load headers =>
      rw [Table.perform, requestBorrowing?]
      split_ifs
      · exact hidle _
      · cases loadStream headers with
        | error fault => exact ⟨rfl, rfl⟩
        | ok stream => exact matches_sendLoad table _ stream
  | selectAll => exact matches_answering _ _
  | selectLatest => exact matches_answering _ _

end Requests

section Uses

/-- What a connection may be borrowed for. -/
inductive Use (σ : Type) where
  | direct (borrowing : Borrowing σ)
  | read (store : Store) (coord : TileCoord)
  | executeForeign (store : Store) (statement : Statement) (coord : TileCoord)
  | perform (table : Table) (operation : Operation)

namespace Use

/-- The borrowing of a use, if it needs a connection. -/
def borrowing? (server : Server σ) : Use σ → Option (Borrowing σ)
  | direct borrowing => some borrowing
  | read store coord => readBorrowing? server store coord
  | executeForeign _ statement coord => rendering? server statement coord []
  | perform table operation => requestBorrowing? server table operation

/-- The calls that a use makes. -/
def calls (server : Server σ) (state : σ) : Use σ → List Call
  | direct borrowing => (borrowing.run server state).2.calls
  | read store coord => (store.read server coord state).activity.calls
  | executeForeign store statement coord =>
    (store.executeForeign server statement coord state).activity.calls
  | perform table operation => (table.perform server state operation).2.calls

/-- The fault of the session that a use ends with. -/
def fault? (server : Server σ) (state : σ) : Use σ → Option Fault
  | direct borrowing => faultOf? (borrowing.run server state).1
  | read store coord => readFault? (store.read server coord state).outcome
  | executeForeign store statement coord =>
    readFault? (store.executeForeign server statement coord state).outcome
  | perform table operation => requestFault? (table.perform server state operation).1

theorem matches_borrowing? (use : Use σ) (server : Server σ) (state : σ) :
    Matches server state (use.calls server state) (use.fault? server state)
      (use.borrowing? server) := by
  cases use with
  | direct borrowing => exact ⟨rfl, rfl⟩
  | read store coord => exact matches_read
  | executeForeign store statement coord => exact matches_execute _
  | perform table operation => exact matches_perform table operation

/-- **A connection is given back once and last, unless it is lost.** It is lost if and only if it is
open behind the body and its rollback fails in a way that the driver does not know; then nothing
follows the rollback. Nothing follows the attempt to take a connection if that fails. -/
theorem isReturnedOnce_iff (use : Use σ) (server : Server σ) (state : σ) :
    match use.borrowing? server with
    | none => use.calls server state = []
    | some borrowing =>
      match (server.perform .takeConnection state).1 with
      | .error _ => use.calls server state = [.takeConnection]
      | .ok () =>
        (IsReturnedOnce (use.calls server state) ↔
            ¬ IsLost server (borrowing.exit server state).2.server) ∧
          (IsLost server (borrowing.exit server state).2.server →
            [.rollback] <:+ use.calls server state ∧
              ∀ discard, .giveBack discard ∉ use.calls server state) := by
  have hmatches := use.matches_borrowing? server state
  cases hborrowing : use.borrowing? server with
  | none =>
      rw [hborrowing] at hmatches
      exact hmatches.1
  | some borrowing =>
      rw [hborrowing] at hmatches
      rw [hmatches.1]
      cases htake : (server.perform .takeConnection state).1 with
      | error fault => exact Borrowing.calls_run_of_error htake
      | ok =>
          refine ⟨Borrowing.isReturnedOnce_run_iff htake, fun hlost => ⟨?_, fun discard => ?_⟩⟩
          · rw [Borrowing.calls_run_of_ok htake, returnCalls_of_isLost hlost]
            exact List.suffix_append _ _
          · rw [Borrowing.giveBack_mem_calls_run_iff htake, returnCalls_of_isLost hlost]
            simp

/-- An open connection that fails to roll back in a way that the driver does not know. -/
def stuckScript : Script where
  rows := []
  faults point := if point = .rollback then some (.foreign "out of memory") else none
  closed := false
  closedOnFault := none

/-- A body that does nothing. -/
def idleBorrowing : Borrowing Script.State :=
  ⟨Unit, Pure.pure (), LeavesPool.pure (), []⟩

theorem not_isReturnedOnce_stuckScript :
    (stuckScript.server.perform .takeConnection stuckScript.start).1 = .ok () ∧
      (direct idleBorrowing).calls stuckScript.server stuckScript.start =
        [.takeConnection, .rollback] ∧
      ¬ IsReturnedOnce ((direct idleBorrowing).calls stuckScript.server stuckScript.start) := by
  have hcalls : (direct idleBorrowing).calls stuckScript.server stuckScript.start =
      [.takeConnection, .rollback] := by decide
  refine ⟨by decide, hcalls, ?_⟩
  rw [hcalls]
  rintro ⟨front, discard, hfront, -⟩
  simpa using congrArg List.getLast? hfront

/-- **Only clean connections are given back to be used again.** A connection is reused only if it is
open behind the body and the rollback just before it succeeded. It is discarded if and only if it
is closed, and then not rolled back, or the driver fails to roll it back. The outcome of the body
counts unless giving back fails, or the rollback in a way that the driver does not know. -/
theorem isReturnedClean (use : Use σ) (server : Server σ) (state : σ) :
    match use.borrowing? server with
    | none => use.calls server state = []
    | some borrowing =>
      match (server.perform .takeConnection state).1 with
      | .error _ => use.calls server state = [.takeConnection]
      | .ok () =>
        IsCleanReturn server (borrowing.exit server state).2 (use.calls server state) ∧
          (borrowing.run server state).1 = replacedBy (borrowing.exit server state).1
            (returnFault? server (borrowing.exit server state).2.server) ∧
          use.fault? server state = faultOf? (borrowing.run server state).1 := by
  have hmatches := use.matches_borrowing? server state
  cases hborrowing : use.borrowing? server with
  | none =>
      rw [hborrowing] at hmatches
      exact hmatches.1
  | some borrowing =>
      rw [hborrowing] at hmatches
      rw [hmatches.1]
      cases htake : (server.perform .takeConnection state).1 with
      | error fault => exact Borrowing.calls_run_of_error htake
      | ok =>
          exact ⟨Borrowing.isCleanReturn_run htake, Borrowing.fst_run_of_ok htake, hmatches.2⟩

end Use

end Uses

end Database
end VectorTiles
