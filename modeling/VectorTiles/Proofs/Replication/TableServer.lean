import VectorTiles.Proofs.Replication.SentRows
import Mathlib.Data.Finmap
import Mathlib.Data.Finset.Sort
import Mathlib.Logic.Function.Basic

/-!
# A server with a header table

The server keeps rows by their keys and answers every statement by what it says.

**Data.** A row has a cell in every column, and columns that are not named are null. Beside the saved
rows there are those of the open transaction. Rows that no order is asked for come in any order, and
in another one every time.

**Rules.** A statement that cannot be executed fails with an error of the driver, and the transaction
with it. What a transaction has changed is saved by a commit and lost without it.

**Results.**

* `tableServer`: the server, for any order of rows and any error.
* `execute?_selectOne`, `execute?_upsert` and the others: what the statements of the table do.
-/

namespace VectorTiles
namespace Replication

open Database

section Rows

/-- A row, column by column. -/
abbrev Record := String → Cell

/-- The rows of a table by their keys. -/
abbrev Rows := Finmap fun _ : Int => Record

def record (cells : List (String × Cell)) : Record := fun column =>
  (cells.lookup column).getD .null

/-- The cell that stores a value in a column, if the column can hold it. -/
def ColumnType.cell? : ColumnType → Param → Option Cell
  | _, .null => some .null
  | bigint, .int n => if Bytes.Fits 8 n then some (.int n) else none
  | timestamp, .timestamp t => if t.offset = none then some (.timestamp t) else none
  | text, .text s => if '\x00' ∈ s.toList then none else some (.text s)
  | _, _ => none

def cells? : NamedRow → Option (List (String × Cell))
  | [] => some []
  | (column, value) :: row => do
    let type ← columnType? column
    let cell ← type.cell? value
    let rest ← cells? row
    return (column, cell) :: rest

def keyed? (row : NamedRow) : Option (Int × Record) :=
  (cells? row).bind fun cells =>
    match record cells Table.keyColumn with
    | .int key => some (key, record cells)
    | _ => none

/-- A row in which some columns take cells of another one. -/
def updated (updates : List (String × String)) (old new : Record) : Record := fun column =>
  match updates.lookup column with
  | some source => new source
  | none => old column

namespace Rows

/-- Inserts a row, or updates the one with its key. The key itself cannot be updated. -/
def upsert? (rows : Rows) (key : String) (updates : List (String × String)) (row : NamedRow) :
    Option Rows :=
  if key = Table.keyColumn ∧ updates.lookup key = none then
    (keyed? row).map fun (n, new) =>
      match rows.lookup n with
      | some old => rows.insert n (updated updates old new)
      | none => rows.insert n new
  else none

/-- Inserts a row with a new key. -/
def insert? (rows : Rows) (row : NamedRow) : Option Rows :=
  (keyed? row).bind fun (n, new) => if n ∈ rows then none else some (rows.insert n new)

def descendingKeys (rows : Rows) : List Int :=
  rows.keys.sort (· ≥ ·)

/-- The rows with some of the keys, the greatest key first. -/
def descending (rows : Rows) (isChosen : Int → Bool) : List Record :=
  (rows.descendingKeys.filter isChosen).filterMap rows.lookup

end Rows

end Rows

section Server

/-- An order for rows that no order is asked for. -/
structure RowOrder where
  arrange : Nat → List Record → List Record
  perm : ∀ turn records, (arrange turn records).Perm records

/-- A server with one table. -/
structure TableState where
  saved : Rows
  working : Rows
  pending : List Row
  turn : Nat

namespace TableState

def empty : TableState := ⟨∅, ∅, [], 0⟩

/-- The state in which a transaction begins. -/
def fresh (state : TableState) : TableState :=
  { state with working := state.saved, pending := [] }

variable (order : RowOrder) (table : Table)

def query? (state : TableState) : Choice → Option (List Param) → Option (List Record)
  | .descending column, none =>
    if column = Table.keyColumn then some (state.working.descending fun _ => true) else none
  | .equal column, some [.int key] =>
    if column = Table.keyColumn then
      some (order.arrange state.turn (state.working.lookup key).toList)
    else none
  | .among column, some [.ints keys] =>
    if column = Table.keyColumn then
      some (order.arrange state.turn (state.working.descending fun key => key ∈ keys))
    else none
  | _, _ => none

def execute? (sql : String) (params : Option (List Param)) (state : TableState) :
    Option TableState :=
  match Command.ofText? sql, params with
  | some (.select target columns choice), params =>
    if target = table then
      (state.query? order choice params).map fun records =>
        { state with pending := records.map columns.map, turn := state.turn + 1 }
    else none
  | some (.upsert target columns key updates), some values =>
    if target = table then
      (state.working.upsert? key updates (columns.zip values)).map fun rows =>
        { state with working := rows }
    else none
  | some (.delete target column), some [.int key] =>
    if target = table ∧ column = Table.keyColumn then
      some { state with working := state.working.erase key }
    else none
  | _, _ => none

def executeBatch? (sql : String) (rows : List (List Param)) (state : TableState) :
    Option TableState :=
  rows.foldlM (fun state values => state.execute? order table sql (some values)) state

/-- Inserts all rows of a stream, or none. -/
def copy? (sql : String) (stream : List UInt8) (state : TableState) : Option TableState :=
  match Command.ofText? sql with
  | some (.load target columns) =>
    if target = table then
      ((loadedRows? columns stream).bind (List.foldlM Rows.insert? state.working)).map fun rows =>
        { state with working := rows }
    else none
  | _ => none

/-- The answer to a statement. A statement that fails ends its transaction. -/
def answer (refusal : DriverError) (state : TableState) :
    Option TableState → Except Fault Unit × TableState
  | some behind => (.ok (), behind)
  | none => (.error (.driver refusal), state.fresh)

end TableState

/-- The server that keeps a table. -/
def tableServer (order : RowOrder) (refusal : DriverError) (table : Table) : Server TableState where
  perform
    | .execute sql params, state => state.answer refusal (state.execute? order table sql params)
    | .executeBatch sql rows, state =>
      state.answer refusal (state.executeBatch? order table sql rows)
    | .copyFrom sql stream, state => state.answer refusal (state.copy? table sql stream)
    | .commit, state => (.ok (), { state with saved := state.working })
    | .takeConnection, state | .rollback, state | .giveBack _, state => (.ok (), state.fresh)
    | .openCursor, state | .closeCursor, state | .fetchOne, state | .fetchAll, state => (.ok (), state)
  fetchOne state := (.ok state.pending.head?, { state with pending := state.pending.tail })
  fetchAll state := (.ok state.pending, { state with pending := [] })
  isClosed _ := false

end Server

section Statements

variable (order : RowOrder) (table : Table) (state : TableState)

theorem execute?_selectAll : state.execute? order table table.selectAll none =
    some { state with
      pending := (state.working.descending fun _ => true).map Table.columns.map
      turn := state.turn + 1 } := by
  simp [TableState.execute?, ofText?_selectAll, TableState.query?]

theorem execute?_selectOne (key : Int) :
    state.execute? order table table.selectOne (some [.int key]) =
      some { state with
        pending := (state.working.lookup key).toList.map Table.columns.map
        turn := state.turn + 1 } := by
  have hone : order.arrange state.turn (state.working.lookup key).toList =
      (state.working.lookup key).toList := by
    have hperm := order.perm state.turn (state.working.lookup key).toList
    cases hlookup : state.working.lookup key with
    | none =>
        rw [hlookup] at hperm
        exact List.perm_nil.mp hperm
    | some record =>
        rw [hlookup] at hperm
        exact List.perm_singleton.mp hperm
  simp [TableState.execute?, ofText?_selectOne, TableState.query?, hone]

theorem execute?_selectAny (keys : List Int) :
    ∃ records : List Record, records.Perm (state.working.descending fun key => key ∈ keys) ∧
      state.execute? order table table.selectAny (some [.ints keys]) =
        some { state with
          pending := records.map Table.columns.map
          turn := state.turn + 1 } := by
  refine ⟨_, order.perm state.turn _, ?_⟩
  simp [TableState.execute?, ofText?_selectAny, TableState.query?]

theorem execute?_upsert (header : Header) :
    state.execute? order table table.upsert (some header.row) =
      (state.working.upsert? Table.keyColumn ownUpdates header.named).map fun rows =>
        { state with working := rows } := by
  simp [TableState.execute?, ofText?_upsert, Header.named]

theorem execute?_delete (key : Int) :
    state.execute? order table table.delete (some [.int key]) =
      some { state with working := state.working.erase key } := by
  simp [TableState.execute?, ofText?_delete]

theorem copy?_load {headers : List Header} {stream : List UInt8}
    (h : loadStream headers = .ok stream) :
    state.copy? table table.load stream =
      ((headers.map fun header => header.inUtc.named).foldlM Rows.insert? state.working).map
        fun rows => { state with working := rows } := by
  simp [TableState.copy?, ofText?_load, loadedRows?_loadStream h]

end Statements

section Transactions

variable (order : RowOrder) (refusal : DriverError) (table : Table) {state : TableState}
  {α : Type} {body : Session TableState α} {behind : Activity TableState}

/-- A request finds the server in the state in which a transaction begins. -/
def begun (state : TableState) : Activity TableState :=
  ⟨state.fresh, [.takeConnection, .openCursor], []⟩

theorem perform_execute {sql : String} {params : Option (List Param)} {behind : TableState}
    (h : state.execute? order table sql params = some behind) :
    (tableServer order refusal table).perform (.execute sql params) state = (.ok (), behind) :=
  congrArg (state.answer refusal) h

theorem perform_executeBatch {sql : String} {rows : List (List Param)} {behind : TableState}
    (h : state.executeBatch? order table sql rows = some behind) :
    (tableServer order refusal table).perform (.executeBatch sql rows) state = (.ok (), behind) :=
  congrArg (state.answer refusal) h

theorem perform_copyFrom {sql : String} {stream : List UInt8} {behind : Option TableState}
    (h : state.copy? table sql stream = behind) :
    (tableServer order refusal table).perform (.copyFrom sql stream) state =
      state.answer refusal behind :=
  congrArg (state.answer refusal) h

theorem fetchOne_apply (calls : List Call) (records : List Log.Record) :
    fetchOne (tableServer order refusal table) ⟨state, calls, records⟩ =
      (.ok state.pending.head?,
        ⟨{ state with pending := state.pending.tail }, calls ++ [.fetchOne], records⟩) :=
  rfl

theorem fetchAll_apply (calls : List Call) (records : List Log.Record) :
    fetchAll (tableServer order refusal table) ⟨state, calls, records⟩ =
      (.ok state.pending, ⟨{ state with pending := [] }, calls ++ [.fetchAll], records⟩) :=
  rfl

/-- A connection is given back without a fault, and what is not saved is lost. -/
theorem handBack_tableServer (activity : Activity TableState) :
    ∃ last, handBack (tableServer order refusal table) activity = (.ok (), last) ∧
      last.server.saved = activity.server.saved := by
  refine ⟨_, handBack_of_isOpen activity rfl, rfl⟩

/-- The outcome of a request is the one with which its body is left. -/
theorem run_committed {result : Except Fault α} {exit : Activity TableState}
    (hleaves : LeavesPool body)
    (h : (committing (tableServer order refusal table) body hleaves).exit
      (tableServer order refusal table) state = (result, exit)) :
    ∃ last, (Table.committed (tableServer order refusal table) body).run state = (result, last) ∧
      last.server.saved = exit.server.saved := by
  obtain ⟨last, hback, hsaved⟩ := handBack_tableServer order refusal table exit
  have hrun : (committing (tableServer order refusal table) body hleaves).run
      (tableServer order refusal table) state = _ :=
    Borrowing.run_of_ok rfl
  refine ⟨last, hrun.trans ?_, hsaved⟩
  rw [h, Session.bind_apply, hback]
  rfl

/-- What a body has changed is saved if it succeeds. -/
theorem answering_of_ok {result : α} (hleaves : LeavesPool body)
    (h : body (begun state) = (.ok result, behind)) (answer : α → Except CellFault Answer) :
    ∃ last, Table.answering (tableServer order refusal table) state body answer =
        ((answer result).mapError .unreadable, last) ∧
      last.server.saved = behind.server.working := by
  have hexit : (committing (tableServer order refusal table) body hleaves).exit
      (tableServer order refusal table) state = _ :=
    exit_committing_of_ok hleaves rfl h
  obtain ⟨last, hrun, hsaved⟩ := run_committed order refusal table hleaves hexit
  refine ⟨last, ?_, hsaved⟩
  rw [Table.answering, hrun]
  rfl

/-- Nothing that a body has changed is saved if it fails. -/
theorem answering_of_error {fault : Fault} (hleaves : LeavesPool body)
    (h : body (begun state) = (.error fault, behind)) (answer : α → Except CellFault Answer) :
    ∃ last, Table.answering (tableServer order refusal table) state body answer =
        (.error (Table.logFault fault), last) ∧
      last.server.saved = behind.server.saved := by
  have hexit : (committing (tableServer order refusal table) body hleaves).exit
      (tableServer order refusal table) state = _ :=
    exit_committing_of_error hleaves rfl h
  obtain ⟨last, hrun, hsaved⟩ := run_committed order refusal table hleaves hexit
  refine ⟨last, ?_, hsaved⟩
  rw [Table.answering, hrun]

end Transactions

end Replication
end VectorTiles
