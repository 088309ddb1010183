import VectorTiles.Proofs.Copy.RoundTrip
import VectorTiles.Proofs.Database.Commitment
import VectorTiles.Proofs.Replication.Command
import VectorTiles.Proofs.Time.Clock

/-!
# The rows that are sent to a header table

Headers are sent as parameters of an insertion, or in the stream of a bulk load. Both statements name
the columns that they fill.

**Data.** A value belongs to a column. In a stream it is read by the type of the column; a timestamp
is a number of microseconds there, so it has no offset.

**Results.**

* `sentRows`: the values that the statements among calls send, column by column.
* `sentRows_put`, `sentRows_putMany`, `sentRows_load`: the values of headers on every way.
* `sentRows_load_eq_iff`: when a bulk load and an insertion send the same.
-/

namespace VectorTiles
namespace Replication

open Database

section Columns

/-- The type of a column. -/
inductive ColumnType where
  | bigint
  | timestamp
  | text
  deriving DecidableEq, Repr

def ColumnType.ofText? : String → Option ColumnType
  | "bigint" => some .bigint
  | "timestamp without time zone" => some .timestamp
  | "text" => some .text
  | _ => none

/-- The type of a column of the header table. -/
def columnType? (column : String) : Option ColumnType :=
  if column = Table.keyColumn then some .bigint
  else (Table.valueColumns.lookup column).bind ColumnType.ofText?

/-- The reading without offset so many microseconds behind the beginning of the year 2000. -/
def ofMicros? (micros : Int) : Option Timestamp :=
  let clock := micros + Int.ofNat Timestamp.millennium
  if 0 ≤ clock ∧ clock < Int.ofNat Timestamp.clockEnd then some (.ofClock clock.toNat) else none

def ColumnType.read? (type : ColumnType) : Copy.Field → Option Param
  | none => some .null
  | some payload =>
    match type with
    | bigint => (Copy.readLong? payload).map .int
    | timestamp => ((Copy.readLong? payload).bind ofMicros?).map .timestamp
    | text => (Copy.readText? payload).map .text

/-- Values with their columns. -/
abbrev NamedRow := List (String × Param)

def readNamed? : List String → List Copy.Field → Option NamedRow
  | [], [] => some []
  | column :: columns, field :: fields => do
    let type ← columnType? column
    let value ← type.read? field
    let rest ← readNamed? columns fields
    return (column, value) :: rest
  | _, _ => none

def loadedRows? (columns : List String) (stream : List UInt8) : Option (List NamedRow) :=
  (Copy.readRows? stream).bind fun rows => rows.mapM (readNamed? columns)

/-- The rows that a call sends to a table, if it sends any. -/
def sentBy? (table : Table) : Call → Option (List NamedRow)
  | .execute sql (some params) =>
    match Command.ofText? sql with
    | some (.upsert target columns _ _) => if target = table then some [columns.zip params] else none
    | _ => none
  | .executeBatch sql rows =>
    match Command.ofText? sql with
    | some (.upsert target columns _ _) =>
      if target = table then some (rows.map columns.zip) else none
    | _ => none
  | .copyFrom sql stream =>
    match Command.ofText? sql with
    | some (.load target columns) => if target = table then loadedRows? columns stream else none
    | _ => none
  | _ => none

/-- The rows that calls send to a table. -/
def sentRows (table : Table) (calls : List Call) : List NamedRow :=
  (calls.filterMap (sentBy? table)).flatten

end Columns

section Headers

def Header.values (header : Header) : List Copy.Value :=
  [.long (some header.sequenceNumber), .timestamp header.timestamp, .text header.url,
    .text header.source, .text header.writingProgram]

/-- The parameters of a header with their columns. -/
def Header.named (header : Header) : NamedRow :=
  Table.columns.zip header.row

/-- The header with its timestamp as a clock in UTC shows it. -/
def Header.inUtc (header : Header) : Header :=
  { header with timestamp := header.timestamp.map Timestamp.inUtc }

/-- Every value can be written into a stream. -/
def Header.IsLoadable (header : Header) : Prop :=
  ∀ value ∈ header.values, value.IsWritable

instance (header : Header) : Decidable header.IsLoadable :=
  inferInstanceAs (Decidable (∀ _ ∈ header.values, _))

def Header.texts (header : Header) : List (Option String) :=
  [header.url, header.source, header.writingProgram]

/-- The texts fit into the fields of a stream. -/
def Header.HasShortTexts (header : Header) : Prop :=
  ∀ value ∈ header.texts, Copy.IsShort (Copy.Value.text value).field

instance (header : Header) : Decidable header.HasShortTexts :=
  inferInstanceAs (Decidable (∀ _ ∈ header.texts, _))

/-- The timestamp, if there is one, exists in the calendar. -/
def Header.HasReading (header : Header) : Prop :=
  ∀ t ∈ header.timestamp, t.IsReading

/-- The timestamp, if there is one, has no offset. -/
def Header.IsNaive (header : Header) : Prop :=
  ∀ t ∈ header.timestamp, t.offset = none

variable {header : Header} {headers : List Header} {stream : List UInt8}

theorem isShort_signed (n : Int) : Copy.IsShort (some (Copy.signed 8 n)) := by
  rintro payload ⟨⟩
  rw [Copy.length_signed]
  decide

theorem isShort_timestamp (value : Option Timestamp) :
    Copy.IsShort (Copy.Value.timestamp value).field := by
  cases value with
  | none => exact Copy.isShort_none
  | some t => exact isShort_signed _

/-- What may be too large for a stream: the key, the clock of the timestamp, and the texts. -/
theorem Header.isLoadable_iff : header.IsLoadable ↔ Bytes.Fits 8 header.sequenceNumber ∧
    (Copy.Value.timestamp header.timestamp).IsEncodable ∧ header.HasShortTexts := by
  have htext (text : Option String) : (Copy.Value.text text).IsWritable ↔
      Copy.IsShort (Copy.Value.text text).field := and_iff_right trivial
  simp only [Header.IsLoadable, Header.values, Header.HasShortTexts, Header.texts,
    List.forall_mem_cons, htext, List.not_mem_nil, false_implies, implies_true]
  exact and_congr (and_iff_left (isShort_signed _)) (and_congr (and_iff_left (isShort_timestamp _)) Iff.rfl)

/-- Of a header without offset only the key and the lengths of its texts can be too large. -/
theorem Header.isLoadable_of_isNaive (hfits : Bytes.Fits 8 header.sequenceNumber)
    (hreading : header.HasReading) (hnaive : header.IsNaive) (hshort : header.HasShortTexts) :
    header.IsLoadable := by
  refine Header.isLoadable_iff.mpr ⟨hfits, ?_, hshort⟩
  cases htimestamp : header.timestamp with
  | none => trivial
  | some t =>
      exact Timestamp.isSome_utcClock?_of_naive (hreading t htimestamp) (hnaive t htimestamp)

theorem ofMicros?_micros {t : Timestamp} (h : t.utcClock?.isSome = true) :
    ofMicros? (Copy.Value.micros t) = some t.inUtc := by
  have hclock : Copy.Value.micros t + Int.ofNat Timestamp.millennium = t.utcClock := by
    rw [Copy.Value.micros]
    omega
  rw [Timestamp.utcClock?] at h
  split_ifs at h with hrange
  · rw [ofMicros?]
    simp only [hclock]
    rw [if_pos hrange, Timestamp.inUtc]
  · simp at h

theorem ColumnType.read?_long {n : Int} (h : Bytes.Fits 8 n) :
    ColumnType.bigint.read? (Copy.Value.long (some n)).field = some (.int n) :=
  congrArg (Option.map Param.int) (Copy.readLong?_signed h)

theorem ColumnType.read?_text (value : Option String) :
    ColumnType.text.read? (Copy.Value.text value).field = some (Header.textParam value) := by
  cases value with
  | none => rfl
  | some s => exact congrArg (Option.map Param.text) (Copy.readText?_toUTF8 s)

theorem ColumnType.read?_timestamp {value : Option Timestamp}
    (h : (Copy.Value.timestamp value).IsEncodable) :
    ColumnType.timestamp.read? (Copy.Value.timestamp value).field =
      some (((value.map Timestamp.inUtc).map Param.timestamp).getD .null) := by
  cases value with
  | none => rfl
  | some t =>
      have hfield : (Copy.Value.timestamp (some t)).field =
          some (Copy.signed 8 (Copy.Value.micros t)) := rfl
      rw [hfield, ColumnType.read?, Copy.readLong?_signed (Copy.fits_micros h), Option.bind_some,
        ofMicros?_micros h]
      rfl

theorem readNamed?_cons {column : String} {columns : List String} {type : ColumnType}
    {field : Copy.Field} {fields : List Copy.Field} {value : Param} {rest : NamedRow}
    (htype : columnType? column = some type) (hvalue : type.read? field = some value)
    (hrest : readNamed? columns fields = some rest) :
    readNamed? (column :: columns) (field :: fields) = some ((column, value) :: rest) := by
  simp [readNamed?, htype, hvalue, hrest]

/-- The fields of a header are read as its parameters, with the timestamp in UTC. -/
theorem readNamed?_values (h : header.IsLoadable) :
    readNamed? Table.columns (header.values.map Copy.Value.field) = some header.inUtc.named := by
  have hkey : Bytes.Fits 8 header.sequenceNumber :=
    (h (.long (some header.sequenceNumber)) (by simp [Header.values])).1
  have htimestamp : (Copy.Value.timestamp header.timestamp).IsEncodable :=
    (h (.timestamp header.timestamp) (by simp [Header.values])).1
  refine readNamed?_cons (by decide) (ColumnType.read?_long hkey) ?_
  refine readNamed?_cons (by decide) (ColumnType.read?_timestamp htimestamp) ?_
  refine readNamed?_cons (by decide) (ColumnType.read?_text header.url) ?_
  refine readNamed?_cons (by decide) (ColumnType.read?_text header.source) ?_
  exact readNamed?_cons (by decide) (ColumnType.read?_text header.writingProgram) rfl

theorem mapM_eq_some_map {α β : Type} {f : α → Option β} {g : α → β} {values : List α}
    (h : ∀ value ∈ values, f value = some (g value)) : values.mapM f = some (values.map g) := by
  induction values with
  | nil => rfl
  | cons value values ih =>
      obtain ⟨hfirst, hothers⟩ := List.forall_mem_cons.mp h
      rw [List.mapM_cons, hfirst, ih hothers]
      rfl

theorem flatMap_items (headers : List Header) :
    headers.flatMap Header.items = (headers.map Header.values).flatMap Copy.rowItems := by
  rw [List.flatMap_map]
  rfl

theorem spells_items (h : ∀ header ∈ headers, header.IsLoadable) :
    Copy.Spells (headers.flatMap Header.items) (headers.map Header.values) where
  items_eq := by
    rw [flatMap_items, Copy.filter_rowItems]
  length_lt := by
    refine List.forall_mem_map.mpr fun header _ => ?_
    simp [Header.values]
  isWritable := List.forall_mem_map.mpr h

/-- Headers have a stream if and only if all of their values can be written. -/
theorem loadStream_eq_ok_iff : loadStream headers = .ok stream ↔
    (∀ header ∈ headers, header.IsLoadable) ∧
      stream = Copy.streamBytes (Copy.fieldsOf (headers.map Header.values)) := by
  constructor
  · intro h
    rw [loadStream, flatMap_items] at h
    have hspells := Copy.spells_of_completeStream h
    rw [Copy.completeStream_of_spells hspells] at h
    refine ⟨fun header hheader => ?_, (Except.ok.inj h).symm⟩
    exact hspells.isWritable _ (List.mem_map_of_mem hheader)
  · rintro ⟨hloadable, rfl⟩
    exact Copy.completeStream_of_spells (spells_items hloadable)

/-- **The stream of a bulk load is read as the rows of its headers**, with all timestamps in UTC. -/
theorem loadedRows?_loadStream (h : loadStream headers = .ok stream) :
    loadedRows? Table.columns stream = some (headers.map fun header => header.inUtc.named) := by
  obtain ⟨hloadable, rfl⟩ := loadStream_eq_ok_iff.mp h
  rw [loadedRows?, Copy.readRows?_streamBytes (spells_items hloadable).isFramed, Option.bind_some,
    Copy.fieldsOf, List.map_map, List.mapM_map]
  exact mapM_eq_some_map fun header hheader => readNamed?_values (hloadable header hheader)

theorem Header.inUtc_of_isNaive (h : header.HasReading) (hnaive : header.IsNaive) :
    header.inUtc = header := by
  have hsame : header.timestamp.map Timestamp.inUtc = header.timestamp := by
    cases htimestamp : header.timestamp with
    | none => rfl
    | some t => exact congrArg some (Timestamp.inUtc_of_naive (h t htimestamp) (hnaive t htimestamp))
  rw [Header.inUtc, hsame]

/-- A header in UTC is sent as the header itself if and only if its timestamp has no offset. -/
theorem Header.named_inUtc_eq_iff (h : header.HasReading) :
    header.inUtc.named = header.named ↔ header.IsNaive := by
  constructor
  · intro hnamed t ht
    have hparams := congrArg (List.map Prod.snd) hnamed
    simp only [Header.named, Header.row, Header.inUtc, Option.mem_def.mp ht] at hparams
    simp only [Table.columns, Table.valueColumns] at hparams
    simp at hparams
    rw [← hparams]
    rfl
  · intro hnaive
    rw [Header.inUtc_of_isNaive h hnaive]

end Headers

section Calls

variable {σ : Type} {server : Server σ} {state : σ} (table : Table)

theorem sentRows_append (first second : List Call) :
    sentRows table (first ++ second) = sentRows table first ++ sentRows table second := by
  simp [sentRows]

theorem sentRows_returnCalls : sentRows table (returnCalls server state) = [] := by
  rw [returnCalls]
  split_ifs
  · rfl
  · split <;> rfl

/-- Of all calls of a request only its statement sends rows. -/
theorem sentRows_run_committing (h : Reaches server state) (call : Call)
    (hleaves : LeavesPool (Session.call server call)) :
    sentRows table ((committing server (Session.call server call) hleaves).run server state).2.calls =
      sentRows table [call] := by
  rw [Borrowing.calls_run_of_ok h.takeConnection_eq, sentRows_append, sentRows_returnCalls,
    List.append_nil]
  have hcalls : (Session.call server call (opened server (taken server state))).2.calls =
      [.takeConnection, .openCursor] ++ [call] := rfl
  rcases hbody : Session.call server call (opened server (taken server state)) with
    ⟨fault | result, behind⟩
  · rw [hbody] at hcalls
    rw [exit_committing_of_error hleaves h.openCursor_eq hbody, closed, hcalls, sentRows_append,
      sentRows_append]
    exact List.append_nil _
  · rw [hbody] at hcalls
    rw [exit_committing_of_ok hleaves h.openCursor_eq hbody, hcalls, sentRows_append,
      sentRows_append]
    exact List.append_nil _

theorem sentRows_changing (h : Reaches server state) (call : Call)
    (hleaves : LeavesPool (Session.call server call)) :
    sentRows table (Table.changing server state (Session.call server call)).2.calls =
      sentRows table [call] := by
  obtain ⟨hcalls, -⟩ : Matches server state _ _ (some (committing server _ hleaves)) :=
    matches_changing hleaves
  rw [hcalls, sentRows_run_committing table h]

theorem sentRows_put (h : Reaches server state) (header : Header) :
    sentRows table (table.perform server state (.put header)).2.calls = [header.named] := by
  have hsent := sentRows_changing table h (.execute table.upsert (some header.row))
    (.answered rfl _)
  refine hsent.trans ?_
  simp [sentRows, sentBy?, ofText?_upsert, Header.named]

theorem sentRows_putMany (h : Reaches server state) (headers : List Header) :
    sentRows table (table.perform server state (.putMany headers)).2.calls =
      headers.map Header.named := by
  rw [Table.perform]
  split_ifs with hempty
  · obtain rfl := List.isEmpty_iff.mp hempty
    rfl
  · have hsent := sentRows_changing table h
      (.executeBatch table.upsert (headers.map Header.row)) (.answered rfl _)
    refine hsent.trans ?_
    simp [sentRows, sentBy?, ofText?_upsert, Header.named, Function.comp_def]

theorem sentRows_load {headers : List Header} {stream : List UInt8} (h : Reaches server state)
    (hload : loadStream headers = .ok stream) :
    sentRows table (table.perform server state (.load headers)).2.calls =
      headers.map fun header => header.inUtc.named := by
  rw [Table.perform]
  split_ifs with hempty
  · obtain rfl := List.isEmpty_iff.mp hempty
    rfl
  · have hleaves : LeavesPool (copyFrom server table.load stream) := .answered rfl _
    obtain ⟨hcalls, -⟩ : Matches server state _ _ (some (committing server _ hleaves)) :=
      matches_sendLoad table headers.length stream
    simp only [hload]
    rw [hcalls]
    refine (sentRows_run_committing table h (.copyFrom table.load stream) hleaves).trans ?_
    simp [sentRows, sentBy?, ofText?_load, loadedRows?_loadStream hload]

/-- **Bulk loads and insertions send the same headers up to the offsets of their timestamps.** A bulk
load sends what a clock in UTC shows; insertions, of many headers or of one, send the timestamps as
they are. So both send the same if and only if no timestamp has an offset. -/
theorem sentRows_load_eq_iff {headers : List Header} {stream : List UInt8}
    (h : Reaches server state) (hload : loadStream headers = .ok stream)
    (hreading : ∀ header ∈ headers, header.HasReading) :
    let loaded := sentRows table (table.perform server state (.load headers)).2.calls
    let inserted := sentRows table (table.perform server state (.putMany headers)).2.calls
    loaded = headers.map (fun header => header.inUtc.named) ∧
      inserted = headers.map Header.named ∧
      (∀ header ∈ headers, ∀ later, Reaches server later →
        sentRows table (table.perform server later (.put header)).2.calls = [header.named]) ∧
      (loaded = inserted ↔ ∀ header ∈ headers, header.IsNaive) := by
  refine ⟨sentRows_load table h hload, sentRows_putMany table h headers, ?_, ?_⟩
  · intro header _ later hlater
    exact sentRows_put table hlater header
  · rw [sentRows_load table h hload, sentRows_putMany table h headers, List.map_inj_left]
    constructor
    · intro hsame header hheader
      exact (Header.named_inUtc_eq_iff (hreading header hheader)).mp (hsame header hheader)
    · intro hnaive header hheader
      exact (Header.named_inUtc_eq_iff (hreading header hheader)).mpr (hnaive header hheader)

/-- A connection on which every call succeeds. -/
def quietScript : Script where
  rows := []
  faults _ := none
  closed := false
  closedOnFault := none

theorem reaches_quietScript : Reaches quietScript.server quietScript.start :=
  ⟨rfl, rfl⟩

/-- Two o'clock in the morning, two hours ahead of UTC. -/
def zonedHeader : Header :=
  ⟨1, some ⟨2024, 1, 1, 2, 0, 0, 0, some 7200000000⟩, none, none, none⟩

/-- Midnight in UTC, at the same instant. -/
def utcHeader : Header :=
  ⟨1, some ⟨2024, 1, 1, 0, 0, 0, 0, none⟩, none, none, none⟩

theorem inUtc_zonedHeader : zonedHeader.inUtc = utcHeader := by
  decide

theorem isLoadable_zonedHeader : ∀ header ∈ [zonedHeader], header.IsLoadable := by
  decide +kernel

theorem hasReading_zonedHeader : ∀ header ∈ [zonedHeader], header.HasReading := by
  intro header hheader t ht
  obtain rfl := List.mem_singleton.mp hheader
  obtain rfl := Option.some.inj ht
  exact Timestamp.isReading_of_isPossible (by decide)

theorem sentRows_load_zonedHeader :
    ∃ stream, loadStream [zonedHeader] = .ok stream ∧
      Reaches quietScript.server quietScript.start ∧
      (let sent := fun operation => sentRows Table.standard
        (Table.standard.perform quietScript.server quietScript.start operation).2.calls
      sent (.load [zonedHeader]) = [utcHeader.named] ∧
        (sent (.load [zonedHeader]) = sent (.putMany [zonedHeader]) ↔
          ∀ header ∈ [zonedHeader], header.IsNaive)) := by
  have hload := loadStream_eq_ok_iff.mpr ⟨isLoadable_zonedHeader, rfl⟩
  obtain ⟨hloaded, -, -, hsame⟩ := sentRows_load_eq_iff .standard reaches_quietScript
    hload hasReading_zonedHeader
  rw [List.map_singleton, inUtc_zonedHeader] at hloaded
  exact ⟨_, hload, reaches_quietScript, hloaded, hsame⟩

theorem sentRows_load_ne_zonedHeader :
    ∃ stream, loadStream [zonedHeader] = .ok stream ∧
      sentRows Table.standard (Table.standard.perform quietScript.server quietScript.start
        (.load [zonedHeader])).2.calls ≠
      sentRows Table.standard (Table.standard.perform quietScript.server quietScript.start
        (.putMany [zonedHeader])).2.calls := by
  have hload := loadStream_eq_ok_iff.mpr ⟨isLoadable_zonedHeader, rfl⟩
  refine ⟨_, hload, ?_⟩
  rw [sentRows_load _ reaches_quietScript hload, sentRows_putMany _ reaches_quietScript,
    List.map_singleton, List.map_singleton, inUtc_zonedHeader]
  decide

end Calls

end Replication
end VectorTiles
