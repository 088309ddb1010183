import VectorTiles.Proofs.Replication.MemoryLog
import VectorTiles.Proofs.Replication.TableServer
import Mathlib.Data.List.Forall2
import Mathlib.Data.List.Perm.Basic

/-!
# A table simulates a log in memory

**Data.** A table holds a log if it has the record of each of its headers, and no other row. A header
can be stored if its key fits into 64 bits, its timestamp is a reading without offset and its texts
have no null characters.

**Rules.** Both have the same answers. Where one fails, the other one fails as well, each with an error
of the log itself; the errors differ in what they tell.

**Results.**

* `Holds.upsert?`, `Holds.insertAll` and the like: a statement as a change of the log.
* `simulates_perform`: one request.
* `simulates_trace`: any requests one after the other, from the beginning.
-/

namespace VectorTiles
namespace Replication

open Database

section Records

def Header.cells (header : Header) : Row :=
  [.int header.sequenceNumber, timestampCell header.timestamp, textCell header.url,
    textCell header.source, textCell header.writingProgram]

def Header.record (header : Header) : Record :=
  Replication.record (Table.columns.zip header.cells)

/-- A header that a table can hold. -/
structure Header.IsStorable (header : Header) : Prop where
  fits : Bytes.Fits 8 header.sequenceNumber
  hasReading : header.HasReading
  isNaive : header.IsNaive
  notMem : ∀ value ∈ header.texts, ∀ s ∈ value, '\x00' ∉ s.toList

variable {header other : Header}

theorem Header.map_record (header : Header) : Table.columns.map header.record = header.cells :=
  rfl

theorem Header.record_keyColumn (header : Header) :
    header.record Table.keyColumn = .int header.sequenceNumber :=
  rfl

theorem ofRow_cells (header : Header) : StoredHeader.ofRow header.cells = .ok header.stored :=
  rfl

theorem ofRows_cells (headers : List Header) :
    StoredHeader.ofRows (headers.map Header.cells) = .ok (headers.map Header.stored) := by
  induction headers with
  | nil => rfl
  | cons header headers ih =>
      rw [List.map_cons, StoredHeader.ofRows, ofRow_cells, ih]
      rfl

theorem cell?_timestamp {value : Option Timestamp} (h : ∀ t ∈ value, t.offset = none) :
    ColumnType.timestamp.cell? ((value.map Param.timestamp).getD .null) =
      some (timestampCell value) := by
  cases value with
  | none => rfl
  | some t => exact if_pos (h t rfl)

theorem cell?_text {value : Option String} (h : ∀ s ∈ value, '\x00' ∉ s.toList) :
    ColumnType.text.cell? (Header.textParam value) = some (textCell value) := by
  cases value with
  | none => rfl
  | some s => exact if_neg (h s rfl)

theorem cells?_cons {column : String} {type : ColumnType} {value : Param} {cell : Cell}
    {row : NamedRow} {cells : List (String × Cell)} (htype : columnType? column = some type)
    (hcell : type.cell? value = some cell) (hrest : cells? row = some cells) :
    cells? ((column, value) :: row) = some ((column, cell) :: cells) := by
  simp [cells?, htype, hcell, hrest]

theorem cells?_named (h : header.IsStorable) :
    cells? header.named = some (Table.columns.zip header.cells) := by
  have hkey : ColumnType.bigint.cell? (.int header.sequenceNumber) =
      some (.int header.sequenceNumber) := if_pos h.fits
  refine cells?_cons (by decide) hkey ?_
  refine cells?_cons (by decide) (cell?_timestamp h.isNaive) ?_
  refine cells?_cons (by decide) (cell?_text (h.notMem header.url (by simp [Header.texts]))) ?_
  refine cells?_cons (by decide) (cell?_text (h.notMem header.source (by simp [Header.texts]))) ?_
  exact cells?_cons (by decide) (cell?_text (h.notMem header.writingProgram (by simp [Header.texts]))) rfl

theorem keyed?_named (h : header.IsStorable) :
    keyed? header.named = some (header.sequenceNumber, header.record) := by
  rw [keyed?, cells?_named h]
  rfl

theorem lookup_map_self (columns : List String) (column : String) :
    (columns.map fun name => (name, name)).lookup column =
      if column ∈ columns then some column else none := by
  induction columns with
  | nil => rfl
  | cons name columns ih =>
      rw [List.map_cons, List.lookup_cons, ih]
      by_cases hname : column = name
      · simp [hname]
      · simp [beq_false_of_ne hname, hname]

/-- A row that takes all new values beside its key is the new row. -/
theorem updated_record (header : Header) (h : other.sequenceNumber = header.sequenceNumber) :
    updated ownUpdates other.record header.record = header.record := by
  funext column
  have hupdates : ownUpdates = (Table.valueColumns.map (·.1)).map fun name => (name, name) := rfl
  rw [updated, hupdates, lookup_map_self]
  split_ifs with hmem
  · rfl
  · by_cases hkey : column = Table.keyColumn
    · rw [hkey, Header.record_keyColumn, Header.record_keyColumn, h]
    · have hnone (stored : Header) : stored.record column = .null := by
        have hcolumns : column ∉ (Table.columns.zip stored.cells).map Prod.fst := by
          simpa [Table.columns, Header.cells, Table.valueColumns, hkey] using hmem
        rw [Header.record, record, List.lookup_eq_none_iff.mpr]
        · rfl
        · intro cell hcell
          refine bne_iff_ne.mpr ?_
          rintro rfl
          exact hcolumns (List.mem_map_of_mem hcell)
      rw [hnone, hnone]

end Records

section Tables

/-- The table has the records of the headers, and no other rows. -/
def Holds (rows : Rows) (log : MemoryLog) : Prop :=
  ∀ key, rows.lookup key = (log.get? key).map Header.record

variable {rows : Rows} {log : MemoryLog} {header : Header} {headers : List Header}

theorem Holds.empty : Holds ∅ MemoryLog.empty := by
  intro key
  rfl

theorem Holds.mem_iff (h : Holds rows log) {key : Int} :
    key ∈ rows ↔ (log.get? key).isSome = true := by
  rw [← Finmap.lookup_isSome, h key, Option.isSome_map]

theorem Holds.insert (h : Holds rows log) (header : Header) :
    Holds (rows.insert header.sequenceNumber header.record) (log.put header) := by
  intro key
  rw [MemoryLog.get?_put]
  split_ifs with hkey
  · rw [← hkey, Finmap.lookup_insert]
    rfl
  · rw [Finmap.lookup_insert_of_ne rows (Ne.symm hkey), h key]

theorem Holds.erase (h : Holds rows log) (key : Int) :
    Holds (rows.erase key) (log.delete key) := by
  intro other
  rw [MemoryLog.get?_delete]
  split_ifs with hkey
  · rw [← hkey, Finmap.lookup_erase]
    rfl
  · rw [Finmap.lookup_erase_ne (Ne.symm hkey), h other]

theorem Holds.upsert? (h : Holds rows log) (hstorable : header.IsStorable) :
    ∃ behind, rows.upsert? Table.keyColumn ownUpdates header.named = some behind ∧
      Holds behind (log.put header) := by
  refine ⟨_, ?_, h.insert header⟩
  have hkey : Table.keyColumn = Table.keyColumn ∧ ownUpdates.lookup Table.keyColumn = none :=
    ⟨rfl, by decide⟩
  rw [Rows.upsert?, if_pos hkey, keyed?_named hstorable, Option.map_some]
  simp only [h header.sequenceNumber]
  cases hget : log.get? header.sequenceNumber with
  | none => rfl
  | some other =>
      have hsame := updated_record header (MemoryLog.sequenceNumber_of_get? hget)
      simp only [Option.map_some, hsame]

theorem insert?_named (hstorable : header.IsStorable) (rows : Rows) :
    rows.insert? header.named = if header.sequenceNumber ∈ rows then none
      else some (rows.insert header.sequenceNumber header.record) := by
  rw [Rows.insert?, keyed?_named hstorable]
  rfl

/-- New headers are loaded one after the other. -/
theorem Holds.insertAll (h : Holds rows log) (hstorable : ∀ header ∈ headers, header.IsStorable)
    (hadmits : log.Admits headers) :
    ∃ behind, (headers.map Header.named).foldlM Rows.insert? rows = some behind ∧
      Holds behind (log.putMany headers) := by
  induction headers generalizing rows log with
  | nil => exact ⟨rows, rfl, h⟩
  | cons header headers ih =>
      obtain ⟨hfirst, hothers⟩ := List.forall_mem_cons.mp hstorable
      obtain ⟨hnew, hrest⟩ := MemoryLog.admits_cons.mp hadmits
      obtain ⟨behind, hbehind, hholds⟩ := ih (h.insert header) hothers hrest
      have hmem : ¬ header.sequenceNumber ∈ rows := by
        rw [h.mem_iff, hnew]
        exact Bool.false_ne_true
      refine ⟨behind, ?_, hholds⟩
      rw [List.map_cons, List.foldlM_cons, insert?_named hfirst, if_neg hmem]
      exact hbehind

/-- A key that is not new stops the load. -/
theorem Holds.insertAll_eq_none (h : Holds rows log)
    (hstorable : ∀ header ∈ headers, header.IsStorable) (hadmits : ¬ log.Admits headers) :
    (headers.map Header.named).foldlM Rows.insert? rows = none := by
  induction headers generalizing rows log with
  | nil => exact absurd ⟨List.nodup_nil, fun _ hmem => absurd hmem List.not_mem_nil⟩ hadmits
  | cons header headers ih =>
      obtain ⟨hfirst, hothers⟩ := List.forall_mem_cons.mp hstorable
      rw [List.map_cons, List.foldlM_cons, insert?_named hfirst]
      split_ifs with hmem
      · rfl
      · have hnew : log.get? header.sequenceNumber = none := by
          rw [h.mem_iff, Bool.not_eq_true, Option.isSome_eq_false_iff, Option.isNone_iff_eq_none]
            at hmem
          exact hmem
        refine ih (h.insert header) hothers ?_
        intro hrest
        exact hadmits (MemoryLog.admits_cons.mpr ⟨hnew, hrest⟩)

/-- The keys of an ordered log in their order. -/
theorem Holds.descendingKeys_eq (h : Holds rows log) (hordered : log.IsOrdered) :
    rows.descendingKeys = log.headers.map (·.sequenceNumber) := by
  have hpairwise : (log.headers.map (·.sequenceNumber)).Pairwise (· > ·) :=
    List.pairwise_map.mpr hordered
  have hkeys : rows.keys = (log.headers.map (·.sequenceNumber)).toFinset := by
    ext key
    rw [Finmap.mem_keys, h.mem_iff, List.mem_toFinset, List.mem_map]
    constructor
    · intro hsome
      obtain ⟨header, hget⟩ := Option.isSome_iff_exists.mp hsome
      exact ⟨header, MemoryLog.mem_of_get? hget, MemoryLog.sequenceNumber_of_get? hget⟩
    · rintro ⟨header, hmem, rfl⟩
      rw [hordered.get?_of_mem hmem]
      rfl
  rw [Rows.descendingKeys, hkeys, List.toFinset_sort]
  · exact hpairwise.imp Int.le_of_lt
  · exact hpairwise.imp fun hlt => (Int.ne_of_lt hlt).symm

/-- The rows with some of the keys are the headers with these keys. -/
theorem Holds.descending (h : Holds rows log) (hordered : log.IsOrdered) (isChosen : Int → Bool) :
    rows.descending isChosen =
      (log.headers.filter fun header => isChosen header.sequenceNumber).map Header.record := by
  have hlookup : ∀ header ∈ log.headers.filter fun header => isChosen header.sequenceNumber,
      rows.lookup header.sequenceNumber = some header.record := by
    intro header hmem
    rw [h, hordered.get?_of_mem (List.mem_of_mem_filter hmem)]
    rfl
  rw [Rows.descending, h.descendingKeys_eq hordered, List.filter_map, List.filterMap_map]
  exact (List.filterMap_congr hlookup).trans (congrFun List.filterMap_eq_map _)

theorem Holds.descending_true (h : Holds rows log) (hordered : log.IsOrdered) :
    rows.descending (fun _ => true) = log.headers.map Header.record := by
  rw [h.descending hordered, List.filter_true]

end Tables

section Batches

variable (order : RowOrder) (table : Table) {state : TableState} {log : MemoryLog}

theorem Holds.execute?_upsert {header : Header} (h : Holds state.working log)
    (hstorable : header.IsStorable) :
    ∃ behind, state.execute? order table table.upsert (some header.row) = some behind ∧
      Holds behind.working (log.put header) := by
  obtain ⟨rows, hrows, hholds⟩ := h.upsert? hstorable
  refine ⟨{ state with working := rows }, ?_, hholds⟩
  rw [Replication.execute?_upsert, hrows]
  rfl

/-- A batch of insertions puts its headers one after the other. -/
theorem Holds.executeBatch?_upsert {headers : List Header} (h : Holds state.working log)
    (hstorable : ∀ header ∈ headers, header.IsStorable) :
    ∃ behind, state.executeBatch? order table table.upsert (headers.map Header.row) = some behind ∧
      Holds behind.working (log.putMany headers) := by
  induction headers generalizing state log with
  | nil => exact ⟨state, rfl, h⟩
  | cons header headers ih =>
      obtain ⟨hfirst, hothers⟩ := List.forall_mem_cons.mp hstorable
      obtain ⟨next, hnext, hput⟩ := h.execute?_upsert order table hfirst
      obtain ⟨behind, hbehind, hholds⟩ := ih hput hothers
      refine ⟨behind, ?_, hholds⟩
      rw [TableState.executeBatch?, List.map_cons, List.foldlM_cons, hnext]
      exact hbehind

/-- A batch of deletions deletes its keys one after the other. -/
theorem Holds.executeBatch?_delete {keys : List Int} (h : Holds state.working log) :
    ∃ behind, state.executeBatch? order table table.delete (keys.map fun key => [Param.int key]) =
        some behind ∧
      Holds behind.working (log.deleteMany keys) := by
  induction keys generalizing state log with
  | nil => exact ⟨state, rfl, h⟩
  | cons key keys ih =>
      have herase : Holds { state with working := state.working.erase key }.working _ := h.erase key
      obtain ⟨behind, hbehind, hholds⟩ := ih herase
      refine ⟨behind, ?_, hholds⟩
      rw [TableState.executeBatch?, List.map_cons, List.foldlM_cons, execute?_delete]
      exact hbehind

variable {headers : List Header} {stream : List UInt8}

theorem map_named_inUtc (h : ∀ header ∈ headers, header.IsStorable) :
    (headers.map fun header => header.inUtc.named) = headers.map Header.named :=
  List.map_congr_left fun header hheader => by
    rw [Header.inUtc_of_isNaive (h header hheader).hasReading (h header hheader).isNaive]

theorem Holds.copy?_load (h : Holds state.working log)
    (hstorable : ∀ header ∈ headers, header.IsStorable) (hload : loadStream headers = .ok stream)
    (hadmits : log.Admits headers) :
    ∃ behind, state.copy? table table.load stream = some behind ∧
      Holds behind.working (log.putMany headers) := by
  obtain ⟨rows, hrows, hholds⟩ := h.insertAll hstorable hadmits
  refine ⟨{ state with working := rows }, ?_, hholds⟩
  rw [Replication.copy?_load table state hload, map_named_inUtc hstorable, hrows]
  rfl

theorem Holds.copy?_load_eq_none (h : Holds state.working log)
    (hstorable : ∀ header ∈ headers, header.IsStorable) (hload : loadStream headers = .ok stream)
    (hadmits : ¬ log.Admits headers) : state.copy? table table.load stream = none := by
  rw [Replication.copy?_load table state hload, map_named_inUtc hstorable,
    h.insertAll_eq_none hstorable hadmits]
  rfl

end Batches

section Queries

variable {log : MemoryLog} {headers : List Header} {key : Int}

theorem map_columns_record (headers : List Header) :
    (headers.map Header.record).map Table.columns.map = headers.map Header.cells := by
  rw [List.map_map]
  exact List.map_congr_left fun header _ => header.map_record

/-- Records in another order are those of the headers in another order. -/
theorem exists_perm_of_perm_map {records : List Record} (h : records.Perm (headers.map Header.record)) :
    ∃ others : List Header, others.Perm headers ∧ records = others.map Header.record := by
  have hsame : List.Forall₂ (fun (found : Record) (header : Header) => found = header.record)
      (headers.map Header.record) headers :=
    List.forall₂_map_left_iff.mpr (List.forall₂_same.mpr fun _ _ => rfl)
  obtain ⟨others, hothers, hperm⟩ := List.perm_comp_forall₂ h hsame
  refine ⟨others, hperm, ?_⟩
  rw [← List.forall₂_eq_eq_eq, List.forall₂_map_right_iff]
  exact hothers

/-- A header is found among rows in any order if all rows are of the log and its own is among them. -/
theorem find?_stored (hmem : ∀ header ∈ headers, log.get? header.sequenceNumber = some header)
    (hall : ∀ header, log.get? key = some header → header ∈ headers) :
    StoredHeader.find? key (headers.map Header.stored) = (log.get? key).map Header.stored := by
  have hsame : ∀ found ∈ (headers.map Header.stored).reverse, found.sequenceNumber = key →
      (log.get? key).map Header.stored = some found := by
    intro found hfound hkey
    obtain ⟨header, hheader, rfl⟩ := List.mem_map.mp (List.mem_reverse.mp hfound)
    obtain rfl : header.sequenceNumber = key := hkey
    rw [hmem header hheader]
    rfl
  rw [StoredHeader.find?]
  cases hfind : (headers.map Header.stored).reverse.find? (·.sequenceNumber == key) with
  | some found =>
      have hkey : found.sequenceNumber = key := by simpa using List.find?_some hfind
      exact (hsame found (List.mem_of_find?_eq_some hfind) hkey).symm
  | none =>
      cases hget : log.get? key with
      | none => rfl
      | some header =>
          have hheader : header.stored ∈ (headers.map Header.stored).reverse :=
            List.mem_reverse.mpr (List.mem_map_of_mem (hall header hget))
          have hne := List.find?_eq_none.mp hfind header.stored hheader
          have hkey : header.stored.sequenceNumber = key := MemoryLog.sequenceNumber_of_get? hget
          simp [hkey] at hne

end Queries

section Requests

/-- Both succeed with the same answer, or both fail with an error of the log itself. -/
def SameOutcome : Except LogFault Answer → Except LogFault Answer → Prop
  | .ok answer, .ok other => answer = other
  | .error fault, .error other => fault.isOwn = true ∧ other.isOwn = true
  | _, _ => False

/-- A request of the table has the outcome of the log, and leaves the headers of the log. -/
def Simulates (performed : Except LogFault Answer × Activity TableState)
    (expected : Except LogFault Answer × MemoryLog) : Prop :=
  SameOutcome performed.1 expected.1 ∧ Holds performed.2.server.saved expected.2

/-- A request that can be made of a table and of a log. What is loaded has to fit into a stream. -/
def Operation.IsAdmissible : Operation → Prop
  | create | drop | truncate => False
  | put header => header.IsStorable
  | putMany headers => ∀ header ∈ headers, header.IsStorable
  | load headers => ∀ header ∈ headers, header.IsStorable ∧ header.HasShortTexts
  | get _ | getMany _ | delete _ | deleteMany _ | selectAll | selectLatest => True

variable (order : RowOrder) (refusal : DriverError) (table : Table) {state : TableState}
  {log : MemoryLog}

/-- A change that succeeds is saved. -/
theorem changing_of_ok {call : Call} {behind : TableState}
    (hleaves : LeavesPool (Session.call (tableServer order refusal table) call))
    (h : (tableServer order refusal table).perform call state.fresh = (.ok (), behind)) :
    ∃ last, Table.changing (tableServer order refusal table) state
        (Session.call (tableServer order refusal table) call) = (.ok .done, last) ∧
      last.server.saved = behind.working :=
  answering_of_ok order refusal table hleaves (call_of_answer (begun state) h) fun () => .ok .done

/-- A change that is refused is not saved. -/
theorem changing_of_error {call : Call} {fault : Fault} {behind : TableState}
    (hleaves : LeavesPool (Session.call (tableServer order refusal table) call))
    (h : (tableServer order refusal table).perform call state.fresh = (.error fault, behind)) :
    ∃ last, Table.changing (tableServer order refusal table) state
        (Session.call (tableServer order refusal table) call) =
          (.error (Table.logFault fault), last) ∧
      last.server.saved = behind.saved :=
  answering_of_error order refusal table hleaves (call_of_answer (begun state) h) fun () => .ok .done

theorem simulates_changing (call : Call) {behind : TableState} (hpool : call.isOfPool = false)
    (h : (tableServer order refusal table).perform call state.fresh = (.ok (), behind))
    (hholds : Holds behind.working log) :
    Simulates (Table.changing (tableServer order refusal table) state
      (Session.call (tableServer order refusal table) call)) (.ok .done, log) := by
  obtain ⟨last, hlast, hsaved⟩ := changing_of_ok order refusal table (leavesPool_call _ _ hpool) h
  rw [hlast]
  constructor
  · rfl
  · rw [hsaved]
    exact hholds

/-- A query is answered from the rows that it finds, and changes nothing. -/
theorem simulates_fetching {sql : String} {params : Option (List Param)} {found : TableState}
    {α : Type} {fetch : Session TableState α} {result : α}
    {answer : α → Except CellFault Answer} {expected : Answer} (hfetch : LeavesPool fetch)
    (hfound : state.fresh.execute? order table sql params = some found)
    (hresult : ∀ calls, ∃ behind, fetch ⟨found, calls, []⟩ = (.ok result, behind) ∧
      behind.server.working = state.saved)
    (hanswer : answer result = .ok expected) (hholds : Holds state.saved log) :
    Simulates (Table.answering (tableServer order refusal table) state
      (execute (tableServer order refusal table) sql params >>= fun _ => fetch) answer)
      (.ok expected, log) := by
  have hexecute := call_of_answer (begun state) (perform_execute order refusal table hfound)
  obtain ⟨behind, hbehind, hsame⟩ := hresult ((begun state).calls ++ [.execute sql params])
  have hbody : (execute (tableServer order refusal table) sql params >>= fun _ => fetch)
      (begun state) = (.ok result, behind) := by
    rw [Session.bind_apply, execute, hexecute]
    exact hbehind
  have hleaves : LeavesPool
      (execute (tableServer order refusal table) sql params >>= fun _ => fetch) :=
    .bind (.answered rfl _) fun _ => hfetch
  obtain ⟨last, hlast, hsaved⟩ := answering_of_ok order refusal table hleaves hbody answer
  rw [hlast, hanswer]
  constructor
  · rfl
  · rw [hsaved, hsame]
    exact hholds

/-- The row with a key is the header with this key. -/
theorem simulates_get (h : Holds state.saved log) (key : Int) :
    Simulates (table.perform (tableServer order refusal table) state (.get key))
      (log.perform (.get key)) := by
  have hfound : state.fresh.execute? order table table.selectOne (some [.int key]) = some _ :=
    execute?_selectOne order table _ key
  have hlookup : state.fresh.working.lookup key = (log.get? key).map Header.record := h key
  rw [Table.perform]
  refine simulates_fetching order refusal table (.answered rfl _) hfound
    (fun calls => ⟨_, fetchOne_apply order refusal table calls [], rfl⟩) ?_ h
  simp only [hlookup]
  cases log.get? key <;> rfl

theorem simulates_getMany (h : Holds state.saved log) (hordered : log.IsOrdered) (keys : List Int) :
    Simulates (table.perform (tableServer order refusal table) state (.getMany keys))
      (log.perform (.getMany keys)) := by
  rw [Table.perform]
  split_ifs with hempty
  · obtain rfl := List.isEmpty_iff.mp hempty
    exact ⟨rfl, h⟩
  · obtain ⟨records, hperm, hfound⟩ :=
      execute?_selectAny order table state.fresh keys
    have hfresh : Holds state.fresh.working log := h
    rw [hfresh.descending hordered] at hperm
    obtain ⟨headers, hheaders, rfl⟩ := exists_perm_of_perm_map hperm
    rw [map_columns_record] at hfound
    refine simulates_fetching order refusal table (.answered rfl _) hfound
      (fun calls => ⟨_, fetchAll_apply order refusal table calls [], rfl⟩) ?_ h
    have hfind : ∀ key ∈ keys, StoredHeader.find? key (headers.map Header.stored) =
        (log.get? key).map Header.stored := by
      intro key hkey
      refine find?_stored ?_ ?_
      · intro header hheader
        exact hordered.get?_of_mem (List.mem_of_mem_filter (hheaders.mem_iff.mp hheader))
      · intro header hget
        rw [hheaders.mem_iff, List.mem_filter, MemoryLog.sequenceNumber_of_get? hget]
        exact ⟨MemoryLog.mem_of_get? hget, decide_eq_true hkey⟩
    simp only [ofRows_cells, Except.map, List.map_congr_left hfind]

/-- A stream is loaded if its headers are new to the table. -/
theorem simulates_sendLoad {headers : List Header} {stream : List UInt8} (count : Nat)
    (h : Holds state.saved log) (hstorable : ∀ header ∈ headers, header.IsStorable)
    (hload : loadStream headers = .ok stream) :
    Simulates (table.sendLoad (tableServer order refusal table) state count stream)
      (log.perform (.load headers)) := by
  have hfresh : Holds state.fresh.working log := h
  have hleaves : LeavesPool
      (Session.call (tableServer order refusal table) (.copyFrom table.load stream)) :=
    leavesPool_call _ _ rfl
  rw [Table.sendLoad, MemoryLog.perform]
  by_cases hadmits : log.Admits headers
  · obtain ⟨behind, hcopy, hholds⟩ := hfresh.copy?_load table hstorable hload hadmits
    obtain ⟨last, hlast, hsaved⟩ := changing_of_ok order refusal table hleaves
      (perform_copyFrom order refusal table hcopy)
    rw [copyFrom, hlast, MemoryLog.load_of_admits hadmits]
    constructor
    · rfl
    · simp only [hsaved]
      exact hholds
  · have hcopy := hfresh.copy?_load_eq_none table hstorable hload hadmits
    obtain ⟨last, hlast, hsaved⟩ := changing_of_error order refusal table hleaves
      (perform_copyFrom order refusal table hcopy)
    rw [copyFrom, hlast, MemoryLog.load_of_not_admits hadmits]
    constructor
    · exact ⟨rfl, rfl⟩
    · simp only [hsaved]
      exact h

theorem simulates_load {headers : List Header} (h : Holds state.saved log)
    (hoperation : Operation.IsAdmissible (.load headers)) :
    Simulates (table.perform (tableServer order refusal table) state (.load headers))
      (log.perform (.load headers)) := by
  have hloadable : ∀ header ∈ headers, header.IsLoadable := by
    intro header hheader
    obtain ⟨hstorable, hshort⟩ := hoperation header hheader
    exact Header.isLoadable_of_isNaive hstorable.fits hstorable.hasReading hstorable.isNaive hshort
  obtain ⟨stream, hload⟩ : ∃ stream, loadStream headers = .ok stream :=
    ⟨_, loadStream_eq_ok_iff.mpr ⟨hloadable, rfl⟩⟩
  have hsend := simulates_sendLoad order refusal table headers.length h
    (fun header hheader => (hoperation header hheader).1) hload
  rw [Table.perform]
  split_ifs with hempty
  · obtain rfl := List.isEmpty_iff.mp hempty
    have hadmits : log.Admits [] := ⟨List.nodup_nil, fun _ hmem => absurd hmem List.not_mem_nil⟩
    rw [MemoryLog.perform, MemoryLog.load_of_admits hadmits]
    exact ⟨rfl, h⟩
  · simp only [hload]
    exact hsend

theorem simulates_selectAll (h : Holds state.saved log) (hordered : log.IsOrdered) :
    Simulates (table.perform (tableServer order refusal table) state .selectAll)
      (log.perform .selectAll) := by
  have hfound : state.fresh.execute? order table table.selectAll none = some _ :=
    execute?_selectAll order table _
  have hfresh : Holds state.fresh.working log := h
  rw [hfresh.descending_true hordered, map_columns_record] at hfound
  rw [Table.perform, Table.fetchHeaders]
  refine simulates_fetching order refusal table (.answered rfl _) hfound
    (fun calls => ⟨_, fetchAll_apply order refusal table calls [], rfl⟩) ?_ h
  simp only [ofRows_cells, Except.map, List.map_map]
  rfl

theorem simulates_selectLatest (h : Holds state.saved log) (hordered : log.IsOrdered) :
    Simulates (table.perform (tableServer order refusal table) state .selectLatest)
      (log.perform .selectLatest) := by
  have hfound : state.fresh.execute? order table table.selectAll none = some _ :=
    execute?_selectAll order table _
  have hfresh : Holds state.fresh.working log := h
  rw [hfresh.descending_true hordered, map_columns_record] at hfound
  rw [Table.perform, Table.fetchHeaders]
  refine simulates_fetching order refusal table (.answered rfl _) hfound
    (fun calls => ⟨_, fetchAll_apply order refusal table calls [], rfl⟩) ?_ h
  simp only [ofRows_cells, Except.map, List.head?_map]
  rfl

/-- **A request has the same outcome on both, and leaves the same headers.** -/
theorem simulates_perform (h : Holds state.saved log) (hordered : log.IsOrdered)
    {operation : Operation} (hoperation : operation.IsAdmissible) :
    Simulates (table.perform (tableServer order refusal table) state operation)
      (log.perform operation) := by
  have hfresh : Holds state.fresh.working log := h
  cases operation with
  | create => exact hoperation.elim
  | drop => exact hoperation.elim
  | truncate => exact hoperation.elim
  | get key => exact simulates_get order refusal table h key
  | getMany keys => exact simulates_getMany order refusal table h hordered keys
  | put header =>
      obtain ⟨behind, hbehind, hholds⟩ := hfresh.execute?_upsert order table hoperation
      exact simulates_changing order refusal table (.execute table.upsert (some header.row)) rfl
        (perform_execute order refusal table hbehind) hholds
  | putMany headers =>
      rw [Table.perform]
      split_ifs with hempty
      · obtain rfl := List.isEmpty_iff.mp hempty
        exact ⟨rfl, h⟩
      · obtain ⟨behind, hbehind, hholds⟩ := hfresh.executeBatch?_upsert order table hoperation
        exact simulates_changing order refusal table
          (.executeBatch table.upsert (headers.map Header.row)) rfl
          (perform_executeBatch order refusal table hbehind) hholds
  | delete key =>
      exact simulates_changing order refusal table (.execute table.delete (some [.int key])) rfl
        (perform_execute order refusal table (execute?_delete order table _ key)) (hfresh.erase key)
  | deleteMany keys =>
      rw [Table.perform]
      split_ifs with hempty
      · obtain rfl := List.isEmpty_iff.mp hempty
        exact ⟨rfl, h⟩
      · obtain ⟨behind, hbehind, hholds⟩ := hfresh.executeBatch?_delete order table
        exact simulates_changing order refusal table
          (.executeBatch table.delete (keys.map fun key => [Param.int key])) rfl
          (perform_executeBatch order refusal table hbehind) hholds
  | load headers => exact simulates_load order refusal table h hoperation
  | selectAll => exact simulates_selectAll order refusal table h hordered
  | selectLatest => exact simulates_selectLatest order refusal table h hordered

end Requests

section Runs

/-- The outcomes of requests to a table one after the other, each with the state of the server behind
it. -/
def Table.trace {σ : Type} (table : Table) (server : Server σ) (state : σ) :
    List Operation → List (Except LogFault Answer × σ)
  | [] => []
  | operation :: operations =>
    let performed := table.perform server state operation
    (performed.1, performed.2.server) :: table.trace server performed.2.server operations

/-- The outcomes of requests to a log one after the other, each with the log behind it. -/
def MemoryLog.trace (log : MemoryLog) : List Operation → List (Except LogFault Answer × MemoryLog)
  | [] => []
  | operation :: operations =>
    log.perform operation :: (log.perform operation).2.trace operations

/-- Both have the same outcome, and the table holds the log. -/
def Agree (performed : Except LogFault Answer × TableState)
    (expected : Except LogFault Answer × MemoryLog) : Prop :=
  SameOutcome performed.1 expected.1 ∧ Holds performed.2.saved expected.2

variable (order : RowOrder) (refusal : DriverError) (table : Table) {state : TableState}
  {log : MemoryLog} {operations : List Operation}

theorem forall₂_agree_trace (h : Holds state.saved log) (hordered : log.IsOrdered)
    (hoperations : ∀ operation ∈ operations, operation.IsAdmissible) :
    List.Forall₂ Agree (table.trace (tableServer order refusal table) state operations)
      (log.trace operations) := by
  induction operations generalizing state log with
  | nil => exact .nil
  | cons operation operations ih =>
      obtain ⟨hfirst, hothers⟩ := List.forall_mem_cons.mp hoperations
      obtain ⟨hsame, hholds⟩ := simulates_perform order refusal table h hordered hfirst
      exact .cons ⟨hsame, hholds⟩ (ih hholds (hordered.perform operation) hothers)

/-- **A table in a database simulates a log in memory.** Requests that are made of both from the
beginning have the same outcomes one by one, and after each of them the table holds the log. The rows
of the table may come in any order, and the server may refuse a load with any error. -/
theorem forall₂_agree_trace_empty
    (h : ∀ operation ∈ operations, operation.IsAdmissible) :
    List.Forall₂ Agree (table.trace (tableServer order refusal table) .empty operations)
      (MemoryLog.empty.trace operations) :=
  forall₂_agree_trace order refusal table Holds.empty MemoryLog.IsOrdered.empty h

/-- Every other result comes backwards. -/
def alternatingOrder : RowOrder where
  arrange turn records := if turn % 2 = 0 then records else records.reverse
  perm := by
    intro turn records
    split_ifs
    · exact .refl _
    · exact records.reverse_perm

def firstHeader : Header :=
  ⟨1, some ⟨2024, 2, 29, 23, 59, 59, 999999, none⟩, some "https://example.org/\"%s\"", none, some ""⟩

def secondHeader : Header :=
  ⟨-9223372036854775808, none, none, some "überall", none⟩

/-- A load that is refused, a load that is not, and requests with repeated and missing keys. -/
def mixedOperations : List Operation := [
  .put firstHeader, .load [secondHeader, firstHeader], .load [secondHeader],
  .getMany [1, -9223372036854775808, 1, 7], .putMany [firstHeader, firstHeader],
  .deleteMany [1, 1], .get 1, .selectAll, .load [firstHeader, firstHeader], .selectLatest]

theorem isStorable_firstHeader : firstHeader.IsStorable where
  fits := by decide
  hasReading := by
    intro t ht
    obtain rfl := Option.some.inj ht
    exact Timestamp.isReading_of_isPossible (by decide)
  isNaive := by
    intro t ht
    obtain rfl := Option.some.inj ht
    rfl
  notMem := by decide

theorem isStorable_secondHeader : secondHeader.IsStorable where
  fits := by decide
  hasReading := by
    intro t ht
    cases ht
  isNaive := by
    intro t ht
    cases ht
  notMem := by decide

theorem isAdmissible_mixedOperations :
    ∀ operation ∈ mixedOperations, operation.IsAdmissible := by
  have hfirst : firstHeader.HasShortTexts := by decide +kernel
  have hsecond : secondHeader.HasShortTexts := by decide +kernel
  simp [mixedOperations, Operation.IsAdmissible, isStorable_firstHeader, isStorable_secondHeader,
    hfirst, hsecond]

theorem forall₂_agree_mixedOperations :
    (∀ operation ∈ mixedOperations, operation.IsAdmissible) ∧
      List.Forall₂ Agree
        (Table.standard.trace (tableServer alternatingOrder ⟨"UniqueViolation", "duplicate key"⟩
          Table.standard) .empty mixedOperations)
        (MemoryLog.empty.trace mixedOperations) :=
  ⟨isAdmissible_mixedOperations,
    forall₂_agree_trace_empty alternatingOrder _ Table.standard isAdmissible_mixedOperations⟩

end Runs

end Replication
end VectorTiles
