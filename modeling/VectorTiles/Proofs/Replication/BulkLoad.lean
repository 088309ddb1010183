import VectorTiles.Proofs.Copy.Abandonment
import VectorTiles.Proofs.Replication.CommitDiscipline
import VectorTiles.Proofs.Replication.SentRows
import Mathlib.Data.List.Forall2

/-!
# All headers of a bulk load or none

A bulk load is encoded before a connection is taken, so the server is sent all of its headers in one
stream, or it is not called at all.

**Data.** A header is refused for the first of its values that cannot be written: a key of more than
64 bits, a timestamp without a reading in UTC, or a text that is longer than a field.

**Rules.** The first header that is refused decides, whatever stands in front of it and behind it.
Headers that are not refused are sent at most once; that happens if and only if there is a connection
with a cursor.

**Results.**

* `Header.exists_isRefused_iff`: a header is refused, or it can be loaded.
* `loadStream_of_isRefused`: headers of which one is refused have no stream.
* `IsStreamOf`: a complete stream with one row for each header.
* `perform_load_cases`: the three things that a bulk load may come to.
-/

namespace VectorTiles
namespace Replication

open Database

section Refusals

/-- Why a header cannot be written: the first of its values that cannot decides. -/
inductive Header.IsRefused (header : Header) : Copy.Fault → Prop
  | key (hkey : ¬ Bytes.Fits 8 header.sequenceNumber) : IsRefused header .outOfRange
  | timestamp {t : Timestamp} (hkey : Bytes.Fits 8 header.sequenceNumber)
      (htimestamp : header.timestamp = some t) (hutc : t.utcClock? = none) :
      IsRefused header .noUtcReading
  | text (hkey : Bytes.Fits 8 header.sequenceNumber)
      (htimestamp : (Copy.Value.timestamp header.timestamp).IsEncodable)
      (htexts : ¬ header.HasShortTexts) : IsRefused header .outOfRange

variable {header : Header} {headers front back : List Header} {fault : Copy.Fault}

/-- A header is refused if and only if it cannot be loaded. -/
theorem Header.exists_isRefused_iff : (∃ fault, header.IsRefused fault) ↔ ¬ header.IsLoadable := by
  rw [Header.isLoadable_iff]
  constructor
  · rintro ⟨fault, hrefused⟩ ⟨hkey, htimestamp, htexts⟩
    cases hrefused with
    | key hkey' => exact hkey' hkey
    | timestamp _ ht hutc =>
        rw [ht] at htimestamp
        exact Option.not_isSome_iff_eq_none.mpr hutc htimestamp
    | text _ _ htexts' => exact htexts' htexts
  · intro h
    by_cases hkey : Bytes.Fits 8 header.sequenceNumber
    · by_cases htimestamp : (Copy.Value.timestamp header.timestamp).IsEncodable
      · exact ⟨_, .text hkey htimestamp fun htexts => h ⟨hkey, htimestamp, htexts⟩⟩
      · cases ht : header.timestamp with
        | none =>
            rw [ht] at htimestamp
            exact absurd trivial htimestamp
        | some t =>
            rw [ht] at htimestamp
            exact ⟨_, .timestamp hkey ht (Option.not_isSome_iff_eq_none.mp htimestamp)⟩
    · exact ⟨_, .key hkey⟩

/-- All headers can be loaded, or there is a first one that is refused. -/
theorem forall_or_exists_isRefused (headers : List Header) :
    (∀ header ∈ headers, header.IsLoadable) ∨
      ∃ front header back fault, headers = front ++ header :: back ∧
        (∀ header ∈ front, header.IsLoadable) ∧ header.IsRefused fault := by
  rcases Copy.forall_or_exists_first Header.IsLoadable headers with
    hall | ⟨front, header, back, heq, hfront, hrefused⟩
  · exact .inl hall
  · obtain ⟨fault, hfault⟩ := Header.exists_isRefused_iff.mpr hrefused
    exact .inr ⟨front, header, back, fault, heq, hfront, hfault⟩

theorem addition_item {value : Copy.Value} (h : value.IsWritable) :
    value.item.addition = .ok value.item.added :=
  Copy.Item.addition_eq (Copy.Value.addition_item h)

/-- The items of a refused header fail at the value for which it is refused. -/
theorem Header.IsRefused.exists_failing (h : header.IsRefused fault) :
    ∃ front item back, header.items = front ++ item :: back ∧
      (∀ item ∈ front, item.addition = .ok item.added) ∧ item.addition = .error fault := by
  have hstart : (Copy.Item.rowStart (5 : Nat)).addition =
      .ok (Copy.Item.rowStart (5 : Nat)).added := Copy.addition_rowStart (by decide)
  have hlong (hkey : Bytes.Fits 8 header.sequenceNumber) :
      (Copy.Value.long (some header.sequenceNumber)).IsWritable := ⟨hkey, isShort_signed _⟩
  have hitems : header.items = [.rowStart (5 : Nat), .long (some header.sequenceNumber),
      .timestamp header.timestamp] ++ header.texts.map Copy.Item.text := rfl
  cases h with
  | key hkey =>
      refine ⟨[.rowStart (5 : Nat)], _, _, rfl, List.forall_mem_singleton.mpr hstart, ?_⟩
      exact Copy.nullable_of_error (Copy.encodeLong_of_not_fits hkey)
  | @timestamp t hkey htimestamp hutc =>
      rw [htimestamp] at hitems
      refine ⟨[.rowStart (5 : Nat), .long (some header.sequenceNumber)], .timestamp (some t), _,
        hitems, ?_, Copy.nullable_of_error (Copy.encodeTimestamp_of_eq_none hutc)⟩
      exact List.forall_mem_cons.mpr ⟨hstart,
        List.forall_mem_singleton.mpr (addition_item (hlong hkey))⟩
  | text hkey htimestamp htexts =>
      obtain ⟨before, text, behind, heq, hbefore, htext⟩ :=
        (Copy.forall_or_exists_first _ header.texts).resolve_left htexts
      rw [heq, List.map_append, List.map_cons, ← List.append_assoc] at hitems
      refine ⟨_, .text text, _, hitems, List.forall_mem_append.mpr ⟨?_, ?_⟩,
        Copy.nullable_encodeText_of_not_isShort htext⟩
      · simp only [List.forall_mem_cons]
        exact ⟨hstart, addition_item (hlong hkey),
          addition_item ⟨htimestamp, isShort_timestamp _⟩, List.forall_mem_nil _⟩
      · refine List.forall_mem_map.mpr fun other hother => ?_
        have hwritable : (Copy.Value.text other).IsWritable := ⟨trivial, hbefore other hother⟩
        exact addition_item hwritable

/-- Headers of which one is refused have no stream. -/
theorem loadStream_of_isRefused (hfront : ∀ header ∈ front, header.IsLoadable)
    (h : header.IsRefused fault) (back : List Header) :
    loadStream (front ++ header :: back) = .error fault := by
  obtain ⟨before, item, behind, hitems, hbefore, hitem⟩ := h.exists_failing
  have hsplit : (front ++ header :: back).flatMap Header.items =
      (front.flatMap Header.items ++ before) ++ item :: (behind ++ back.flatMap Header.items) := by
    simp [hitems]
  rw [loadStream, hsplit]
  refine Copy.completeStream_of_failing (List.forall_mem_append.mpr ⟨?_, hbefore⟩) hitem _
  exact fun item hitem => (spells_items hfront).addition_eq_ok hitem

/-- The second key is the first one that does not fit into 64 bits. -/
example : loadStream [⟨1, none, none, none, none⟩, ⟨2 ^ 63, none, none, none, none⟩] =
    .error .outOfRange := by
  decide +kernel

end Refusals

section Streams

/-- A stream is complete, and each of its rows has the five values of a header. -/
structure IsStreamOf (headers : List Header) (stream : List UInt8) : Prop where
  begins : Copy.signature <+: stream
  ends : Copy.trailer <:+ stream
  isRead : ∃ rows, Copy.readRows? stream = some rows ∧
    List.Forall₂ (fun row header => row.length = 5 ∧
      readNamed? Table.columns row = some header.inUtc.named) rows headers

variable {headers : List Header}

theorem isStreamOf_streamBytes (h : ∀ header ∈ headers, header.IsLoadable) :
    IsStreamOf headers (Copy.streamBytes (Copy.fieldsOf (headers.map Header.values))) where
  begins := by
    rw [Copy.streamBytes, Copy.header, List.append_assoc, List.append_assoc]
    exact List.prefix_append _ _
  ends := by
    rw [Copy.streamBytes, ← List.append_assoc]
    exact List.suffix_append _ _
  isRead := by
    refine ⟨_, Copy.readRows?_streamBytes (spells_items h).isFramed, ?_⟩
    rw [Copy.fieldsOf, List.map_map, List.forall₂_map_left_iff, List.forall₂_same]
    exact fun header hheader => ⟨rfl, readNamed?_values (h header hheader)⟩

end Streams

section Loads

variable {σ : Type} {work : List Call} {events : List Event} {reply : Except LogFault Answer}

/-- A request that makes calls does not fail for what it cannot encode. -/
theorem RequestCourse.ne_unwritable (h : RequestCourse work true events reply)
    (cause : Copy.Fault) : reply ≠ .error (.unwritable cause) := by
  obtain @⟨α, rows, answer, outcome, hcourse, hfault, herror, hok, hwork, hchange⟩ := h
  cases outcome with
  | error fault =>
      rw [herror fault rfl]
      cases fault <;> simp [Table.logFault]
  | ok result =>
      rw [hok result rfl, (hchange rfl).2 result]
      nofun

theorem RequestCourse.head?_eq {isChange : Bool} (h : RequestCourse work isChange events reply) :
    (events.map Event.call).head? = some .takeConnection := by
  obtain ⟨hcourse, -, -, -, -, -⟩ := h
  cases hcourse <;> rfl

/-- **All headers of a bulk load are sent, or none.** Without headers nothing happens. If a header
cannot be encoded, wherever it stands, the load fails for the first such header, and no call is made.
Otherwise a connection is taken, and no failure is one of encoding: if there is a connection with a
cursor, a single stream is sent, and none if not. The stream is complete, and its rows are the
headers, one for each in their order. -/
theorem perform_load_cases (table : Table) (server : Server σ) (state : σ)
    (headers : List Header) :
    let reply := table.perform server state (.load headers)
    let events := server.events state reply.2.calls
    (headers = [] ∧ reply = (.ok .done, Activity.start state)) ∨
      (∃ front header back fault, headers = front ++ header :: back ∧
        (∀ header ∈ front, header.IsLoadable) ∧ header.IsRefused fault ∧
        reply = (.error (.unwritable fault), Activity.start state)) ∨
      (headers ≠ [] ∧ (∀ header ∈ headers, header.IsLoadable) ∧
        (∀ fault, reply.1 ≠ .error (.unwritable fault)) ∧
        reply.2.calls.head? = some .takeConnection ∧
        ∃ stream, IsStreamOf headers stream ∧
          ((Succeeds events .takeConnection ∧ Succeeds events .openCursor) ∧
              reply.2.calls.filter Call.isCopy = [.copyFrom table.load stream] ∨
            ¬ (Succeeds events .takeConnection ∧ Succeeds events .openCursor) ∧
              reply.2.calls.filter Call.isCopy = [])) := by
  intro reply events
  by_cases hnil : headers = []
  · exact .inl ⟨hnil, by simp [reply, Table.perform, Table.idle, hnil]⟩
  have hnonempty : headers.isEmpty = false := by simpa using hnil
  rcases forall_or_exists_isRefused headers with
    hall | ⟨front, header, back, fault, heq, hfront, hrefused⟩
  · have hload := loadStream_eq_ok_iff.mpr ⟨hall, rfl⟩
    have hwork : table.work? (.load headers) = some [.copyFrom table.load
        (Copy.streamBytes (Copy.fieldsOf (headers.map Header.values)))] := by
      simp [Table.work?, hnonempty, hload, Except.toOption]
    have hcourse := requestCourse_perform table server state (.load headers)
    rw [hwork] at hcourse
    have hcalls : events.map Event.call = reply.2.calls := server.map_call_events state _
    refine .inr (.inr ⟨hnil, hall, hcourse.ne_unwritable, ?_, _, isStreamOf_streamBytes hall, ?_⟩)
    · rw [← hcalls]
      exact hcourse.head?_eq
    · rw [← hcalls]
      obtain ⟨hcourse, -, -, -, -, -⟩ := hcourse
      exact hcourse.filter_isCopy rfl
  · have hload := loadStream_of_isRefused hfront hrefused back
    refine .inr (.inl ⟨front, header, back, fault, heq, hfront, hrefused, ?_⟩)
    simp [reply, Table.perform, heq, hload]

end Loads

end Replication
end VectorTiles
