import VectorTiles.Proofs.Copy.Framing
import VectorTiles.Proofs.Copy.Outcome
import VectorTiles.Proofs.Text.Utf8

/-!
# Reading back what was written

**Data.** A value goes into one field. It is null, or it has a payload: a number has eight bytes, a
text its bytes in UTF-8, a timestamp the number of microseconds since the beginning of the year 2000,
a geometry its binary form. Rows are written value by value; headers may be asked for at any place.

**Rules.** A number has to fit into 64 bits, a timestamp needs a reading in UTC, and a payload has to
be shorter than the longest one that a field can have.

**Results.**

* `enclosed_of_spells`: the stream of rows, whatever their payloads hold.
* `readRows?_enclosed`: the reader accepts it and finds the rows.
-/

namespace VectorTiles
namespace Copy

section Values

/-- A value for a field. Every kind of value has a null of its own. -/
inductive Value where
  | null
  | long (value : Option Int)
  | text (value : Option String)
  | timestamp (value : Option Timestamp)
  | geometry (value : Option Geometry)

/-- What is read from a field. -/
inductive Content where
  | null
  | number (value : Int)
  | text (value : String)
  | binary (bytes : List UInt8)
  deriving DecidableEq, Repr

/-- How the payload of a field is read. -/
inductive Kind where
  | number
  | text
  | binary
  deriving DecidableEq, Repr

/-- The number of a payload of exactly eight bytes. -/
def readLong? (payload : List UInt8) : Option Int :=
  match readSigned? 8 payload with
  | some (n, []) => some n
  | _ => none

/-- The text of a payload, if it is well-formed UTF-8. -/
def readText? (payload : List UInt8) : Option String :=
  String.fromUTF8? payload.toByteArray

def Kind.read? (kind : Kind) : Field → Option Content
  | none => some .null
  | some payload =>
    match kind with
    | .number => (readLong? payload).map .number
    | .text => (readText? payload).map .text
    | .binary => some (.binary payload)

namespace Value

def item : Value → Item
  | null => .null
  | long value => .long value
  | text value => .text value
  | timestamp value => .timestamp value
  | geometry value => .geometry value

/-- Microseconds since the beginning of the year 2000, in UTC. -/
def micros (t : Timestamp) : Int :=
  t.utcClock - Int.ofNat Timestamp.millennium

def field : Value → Field
  | null => none
  | long value => value.map (signed 8)
  | text value => value.map fun s => s.toUTF8.toList
  | timestamp value => value.map fun t => signed 8 (micros t)
  | geometry value => value.map Geometry.encode

def kind : Value → Kind
  | null => .binary
  | long _ => .number
  | text _ => .text
  | timestamp _ => .number
  | geometry _ => .binary

/-- What a value says. -/
def content : Value → Content
  | long (some n) => .number n
  | text (some s) => .text s
  | timestamp (some t) => .number (micros t)
  | geometry (some g) => .binary g.encode
  | null | long none | text none | timestamp none | geometry none => .null

/-- A number that fits, or a timestamp that has a reading in UTC. -/
def IsEncodable : Value → Prop
  | long (some n) => Bytes.Fits 8 n
  | timestamp (some t) => t.utcClock?.isSome = true
  | _ => True

instance : (value : Value) → Decidable value.IsEncodable
  | long (some n) => inferInstanceAs (Decidable (Bytes.Fits 8 n))
  | timestamp (some t) => inferInstanceAs (Decidable (t.utcClock?.isSome = true))
  | null | long none | text _ | timestamp none | geometry _ => inferInstanceAs (Decidable True)

/-- A value that can be written into a field. -/
def IsWritable (value : Value) : Prop :=
  value.IsEncodable ∧ IsShort value.field

instance (value : Value) : Decidable value.IsWritable :=
  inferInstanceAs (Decidable (_ ∧ _))

end Value

end Values

section Payloads

theorem readLong?_signed {n : Int} (h : Bytes.Fits 8 n) : readLong? (signed 8 n) = some n := by
  have hread := readSigned?_append h []
  rw [List.append_nil] at hread
  rw [readLong?, hread]

theorem readText?_toUTF8 (s : String) : readText? s.toUTF8.toList = some s := by
  rw [readText?, Text.toByteArray_toList]
  exact Text.fromUTF8?_eq_some.mpr rfl

theorem fits_micros {t : Timestamp} (h : t.utcClock?.isSome = true) :
    Bytes.Fits 8 (Value.micros t) := by
  have hend : Timestamp.clockEnd = 315537897600000000 := by decide
  have hmillennium : Timestamp.millennium = 63082281600000000 := by decide
  have hpatterns : Bytes.patterns 8 = 2 ^ 64 := by decide
  rw [Timestamp.utcClock?] at h
  split_ifs at h with hclock
  · rw [Bytes.Fits, hpatterns, Value.micros, hmillennium]
    rw [hend] at hclock
    simp only [Int.ofNat_eq_natCast] at *
    omega
  · simp at h

theorem sinceMillennium?_eq_some {t : Timestamp} (h : t.utcClock?.isSome = true) :
    t.sinceMillennium? = some (Value.micros t) := by
  rw [Timestamp.utcClock?] at h
  split_ifs at h with hclock
  · rw [Timestamp.sinceMillennium?, Timestamp.utcClock?, if_pos hclock]
    rfl
  · simp at h

/-- A field is read in the manner of its value as what the value says. -/
theorem Value.read?_field {value : Value} (h : value.IsEncodable) :
    value.kind.read? value.field = some value.content := by
  cases value with
  | null => rfl
  | long value =>
      cases value with
      | none => rfl
      | some n => exact congrArg (Option.map Content.number) (readLong?_signed h)
  | text value =>
      cases value with
      | none => rfl
      | some s => exact congrArg (Option.map Content.text) (readText?_toUTF8 s)
  | timestamp value =>
      cases value with
      | none => rfl
      | some t => exact congrArg (Option.map Content.number) (readLong?_signed (fits_micros h))
  | geometry value => cases value <;> rfl

end Payloads

section Items

theorem orOutOfRange_some (bytes : List UInt8) : orOutOfRange (some bytes) = .ok bytes :=
  rfl

theorem nullable_eq_bind {α : Type} (encode : α → Except Fault (List UInt8)) (value : α) :
    nullable encode (some value) =
      (encode value).bind fun payload => orOutOfRange (field? payload) :=
  rfl

theorem nullable_some {α : Type} {encode : α → Except Fault (List UInt8)} {value : α}
    {payload : List UInt8} (hencode : encode value = .ok payload) (h : payload.length < 2 ^ 31) :
    nullable encode (some value) = .ok (fieldBytes (some payload)) := by
  have hfield : field? payload = some (fieldBytes (some payload)) := by
    rw [field?, signed?_of_fits (fits_four h), Option.map_some, fieldBytes]
  rw [nullable_eq_bind, hencode, Except.bind, hfield, orOutOfRange_some]

theorem encodeLong_of_fits {n : Int} (h : Bytes.Fits 8 n) : encodeLong n = .ok (signed 8 n) := by
  rw [encodeLong, signed?_of_fits h]
  rfl

theorem encodeTimestamp_of_isSome {t : Timestamp} (h : t.utcClock?.isSome = true) :
    encodeTimestamp t = .ok (signed 8 (Value.micros t)) := by
  rw [encodeTimestamp, sinceMillennium?_eq_some h]
  exact encodeLong_of_fits (fits_micros h)

/-- A value adds its field to the stream. -/
theorem Value.encode_item {value : Value} (h : value.IsWritable) :
    value.item.encode = .ok (fieldBytes value.field) := by
  obtain ⟨hencodable, hshort⟩ := h
  cases value with
  | null => rfl
  | long value =>
      cases value with
      | none => rfl
      | some n => exact nullable_some (encodeLong_of_fits hencodable) (hshort _ rfl)
  | text value =>
      cases value with
      | none => rfl
      | some s =>
          have hencode : encodeText s = .ok s.toUTF8.toList := rfl
          exact nullable_some hencode (hshort _ rfl)
  | timestamp value =>
      cases value with
      | none => rfl
      | some t => exact nullable_some (encodeTimestamp_of_isSome hencodable) (hshort _ rfl)
  | geometry value =>
      cases value with
      | none => rfl
      | some g =>
          have hencode : (fun g : Geometry => (.ok g.encode : Except Fault _)) g = .ok g.encode := rfl
          exact nullable_some hencode (hshort _ rfl)

end Items

section Failures

variable {bytes : List UInt8}

theorem orOutOfRange_eq_ok {found : Option (List UInt8)} (h : orOutOfRange found = .ok bytes) :
    found = some bytes := by
  cases found with
  | none => cases h
  | some other => exact congrArg some (Except.ok.inj h)

theorem fits_of_signed? {width : Nat} {n : Int} (h : signed? width n = some bytes) :
    Bytes.Fits width n := by
  by_contra hfits
  rw [signed?, if_neg hfits] at h
  cases h

/-- A field is written if its value can be encoded and its length fits. -/
theorem nullable_eq_ok {α : Type} {encode : α → Except Fault (List UInt8)} {value : α}
    (h : nullable encode (some value) = .ok bytes) :
    ∃ payload, encode value = .ok payload ∧ payload.length < 2 ^ 31 := by
  rw [nullable_eq_bind] at h
  cases hencode : encode value with
  | error fault =>
      rw [hencode] at h
      cases h
  | ok payload =>
      rw [hencode, Except.bind] at h
      have hfield : field? payload = some bytes := orOutOfRange_eq_ok h
      rw [field?, Option.map_eq_some_iff] at hfield
      obtain ⟨length, hlength, -⟩ := hfield
      have hfits := fits_of_signed? hlength
      have hp : Bytes.patterns 4 = 2 ^ 32 := by decide
      rw [Bytes.Fits, hp] at hfits
      exact ⟨payload, rfl, by omega⟩

theorem nullable_of_error {α : Type} {encode : α → Except Fault (List UInt8)} {value : α}
    {fault : Fault} (h : encode value = .error fault) :
    nullable encode (some value) = .error fault := by
  rw [nullable_eq_bind, h, Except.bind]

theorem encodeLong_of_not_fits {n : Int} (h : ¬ Bytes.Fits 8 n) :
    encodeLong n = .error .outOfRange := by
  rw [encodeLong, signed?, if_neg h, orOutOfRange]

theorem encodeTimestamp_of_eq_none {t : Timestamp} (h : t.utcClock? = none) :
    encodeTimestamp t = .error .noUtcReading := by
  rw [encodeTimestamp, Timestamp.sinceMillennium?, h, Option.map_none]

/-- A text is only refused for its length. -/
theorem nullable_encodeText_of_not_isShort {text : Option String}
    (h : ¬ IsShort (Value.text text).field) :
    nullable encodeText text = .error .outOfRange := by
  cases text with
  | none => exact absurd isShort_none h
  | some s =>
      have hfits : ¬ Bytes.Fits 4 s.toUTF8.toList.length := by
        intro hfits
        have hp : Bytes.patterns 4 = 2 ^ 32 := by decide
        rw [Bytes.Fits, hp] at hfits
        refine h fun payload hpayload => ?_
        obtain rfl : s.toUTF8.toList = payload := Option.some.inj hpayload
        omega
      have hencode : encodeText s = .ok s.toUTF8.toList := rfl
      rw [nullable_eq_bind, hencode, Except.bind, field?, signed?, if_neg hfits, Option.map_none,
        orOutOfRange]

theorem fits_of_encodeLong {n : Int} (h : encodeLong n = .ok bytes) : Bytes.Fits 8 n :=
  fits_of_signed? (orOutOfRange_eq_ok h)

theorem isSome_of_encodeTimestamp {t : Timestamp} (h : encodeTimestamp t = .ok bytes) :
    t.utcClock?.isSome = true := by
  rw [encodeTimestamp, Timestamp.sinceMillennium?] at h
  cases hclock : t.utcClock? with
  | none =>
      rw [hclock] at h
      cases h
  | some clock => rfl

/-- Only writable values are written. -/
theorem Value.isWritable_of_encode {value : Value} (h : value.item.encode = .ok bytes) :
    value.IsWritable := by
  have hsome {payload : List UInt8} (hlength : payload.length < 2 ^ 31) :
      IsShort (some payload) := fun other hother => Option.some.inj hother ▸ hlength
  cases value with
  | null => exact ⟨trivial, isShort_none⟩
  | long value =>
      cases value with
      | none => exact ⟨trivial, isShort_none⟩
      | some n =>
          obtain ⟨payload, hencode, -⟩ := nullable_eq_ok h
          refine ⟨fits_of_encodeLong hencode, hsome ?_⟩
          rw [length_signed]
          decide
  | text value =>
      cases value with
      | none => exact ⟨trivial, isShort_none⟩
      | some s =>
          obtain ⟨payload, hencode, hlength⟩ := nullable_eq_ok h
          obtain rfl : s.toUTF8.toList = payload := Except.ok.inj hencode
          exact ⟨trivial, hsome hlength⟩
  | timestamp value =>
      cases value with
      | none => exact ⟨trivial, isShort_none⟩
      | some t =>
          obtain ⟨payload, hencode, -⟩ := nullable_eq_ok h
          refine ⟨isSome_of_encodeTimestamp hencode, hsome ?_⟩
          rw [length_signed]
          decide
  | geometry value =>
      cases value with
      | none => exact ⟨trivial, isShort_none⟩
      | some g =>
          obtain ⟨payload, hencode, hlength⟩ := nullable_eq_ok h
          obtain rfl : g.encode = payload := Except.ok.inj hencode
          exact ⟨trivial, hsome hlength⟩

end Failures

section Rows

/-- The items that write a row. -/
def rowItems (row : List Value) : List Item :=
  .rowStart row.length :: row.map Value.item

/-- Items that write rows value by value; beside them there are only headers, at any places. -/
structure Spells (items : List Item) (rows : List (List Value)) : Prop where
  items_eq : items.filter (!·.isHeader) = rows.flatMap rowItems
  length_lt : ∀ row ∈ rows, row.length < 2 ^ 15
  isWritable : ∀ row ∈ rows, ∀ value ∈ row, value.IsWritable

def fieldsOf (rows : List (List Value)) : List (List Field) :=
  rows.map (·.map Value.field)

theorem addition_rowStart {count : Nat} (h : count < 2 ^ 15) :
    (Item.rowStart count).addition = .ok (signed 2 count) := by
  have hstart : rowStart? count = some (signed 2 count) := signed?_of_fits (fits_two h)
  have haddition : (Item.rowStart count).addition = orOutOfRange (rowStart? count) := rfl
  rw [haddition, hstart, orOutOfRange_some]

theorem Value.addition_item {value : Value} (h : value.IsWritable) :
    value.item.addition = .ok (fieldBytes value.field) := by
  rw [← Value.encode_item h]
  cases value <;> rfl

theorem flatMap_added_rowItems {row : List Value} (hlength : row.length < 2 ^ 15)
    (hvalues : ∀ value ∈ row, value.IsWritable) :
    (rowItems row).flatMap Item.added = rowBytes (row.map Value.field) := by
  have hstart : (Item.rowStart row.length).added = signed 2 row.length :=
    Item.added_eq (addition_rowStart hlength)
  have hfields : (row.map Value.item).flatMap Item.added =
      (row.map Value.field).flatMap fieldBytes := by
    rw [List.flatMap_map, List.flatMap_map]
    exact List.flatMap_congr fun value hvalue =>
      Item.added_eq (Value.addition_item (hvalues value hvalue))
  rw [rowItems, List.flatMap_cons, hstart, hfields, rowBytes, List.length_map]

variable {items others : List Item} {rows otherRows : List (List Value)}

/-- Every item of rows that can be written is written. -/
theorem Spells.addition_eq_ok (h : Spells items rows) {item : Item} (hitem : item ∈ items) :
    item.addition = .ok item.added := by
  by_cases hheader : item.isHeader = true
  · exact Item.addition_eq (Item.addition_of_isHeader hheader)
  · have hmem : item ∈ rows.flatMap rowItems := by
      rw [← h.items_eq, List.mem_filter]
      simp [hitem, hheader]
    obtain ⟨row, hrow, hmem⟩ := List.mem_flatMap.mp hmem
    rcases List.mem_cons.mp hmem with rfl | hmem
    · exact Item.addition_eq (addition_rowStart (h.length_lt row hrow))
    · obtain ⟨value, hvalue, rfl⟩ := List.mem_map.mp hmem
      exact Item.addition_eq (Value.addition_item (h.isWritable row hrow value hvalue))

theorem Spells.isFramed (h : Spells items rows) : ∀ row ∈ fieldsOf rows, IsFramed row := by
  refine List.forall_mem_map.mpr fun row hrow => ⟨?_, ?_⟩
  · rw [List.length_map]
    exact h.length_lt row hrow
  · exact List.forall_mem_map.mpr fun value hvalue => (h.isWritable row hrow value hvalue).2

theorem Spells.flatMap_added (h : Spells items rows) :
    items.flatMap Item.added = (fieldsOf rows).flatMap rowBytes := by
  rw [← flatMap_added_filter, h.items_eq, List.flatMap_assoc, fieldsOf, List.flatMap_map]
  exact List.flatMap_congr fun row hrow =>
    flatMap_added_rowItems (h.length_lt row hrow) (h.isWritable row hrow)

/-- No item of the rows fails, and their fields stand between the header and the trailer. -/
theorem enclosed_of_spells (h : Spells items rows) :
    enclosed items = (items.map fun item => .ok item.added, streamBytes (fieldsOf rows)) := by
  rw [enclosed_of_forall fun item hitem => h.addition_eq_ok hitem, h.flatMap_added, streamBytes]

theorem completeStream_of_spells (h : Spells items rows) :
    completeStream items = .ok (streamBytes (fieldsOf rows)) := by
  rw [completeStream_of_forall fun item hitem => h.addition_eq_ok hitem, enclosed_of_spells h]

theorem filter_rowItems (rows : List (List Value)) :
    (rows.flatMap rowItems).filter (!·.isHeader) = rows.flatMap rowItems := by
  refine List.filter_eq_self.mpr fun item hitem => ?_
  obtain ⟨row, -, hmem⟩ := List.mem_flatMap.mp hitem
  rcases List.mem_cons.mp hmem with rfl | hmem
  · rfl
  · obtain ⟨value, -, rfl⟩ := List.mem_map.mp hmem
    cases value <;> rfl

/-- Items that write rows have a complete stream only if every part of the rows can be written. -/
theorem spells_of_completeStream {stream : List UInt8}
    (h : completeStream (rows.flatMap rowItems) = .ok stream) :
    Spells (rows.flatMap rowItems) rows where
  items_eq := filter_rowItems rows
  length_lt := by
    intro row hrow
    have hitem : .rowStart row.length ∈ rows.flatMap rowItems :=
      List.mem_flatMap.mpr ⟨row, hrow, List.mem_cons_self⟩
    have hadded := addition_of_completeStream h hitem
    have hfits : Bytes.Fits 2 row.length := fits_of_signed? (orOutOfRange_eq_ok hadded)
    have hp : Bytes.patterns 2 = 2 ^ 16 := by decide
    rw [Bytes.Fits, hp] at hfits
    omega
  isWritable := by
    intro row hrow value hvalue
    have hitem : value.item ∈ rows.flatMap rowItems :=
      List.mem_flatMap.mpr ⟨row, hrow, List.mem_cons_of_mem _ (List.mem_map_of_mem hvalue)⟩
    have hadded := addition_of_completeStream h hitem
    have hencode : value.item.encode = value.item.addition := by cases value <;> rfl
    exact Value.isWritable_of_encode (hencode.trans hadded)

/-- **Rows are read back as they were written.** Whatever the payloads hold and wherever the header
is asked for again, no item fails, the reader accepts the stream and finds every row with its fields,
and each field says what was written into it. So rows with different fields have different streams. -/
theorem readRows?_enclosed (h : Spells items rows) :
    completeStream items = .ok (enclosed items).2 ∧
      readRows? (enclosed items).2 = some (fieldsOf rows) ∧
      (∀ row ∈ rows, ∀ value ∈ row, value.kind.read? value.field = some value.content) ∧
      ∀ {others : List Item} {otherRows : List (List Value)}, Spells others otherRows →
        (enclosed others).2 = (enclosed items).2 → fieldsOf otherRows = fieldsOf rows := by
  rw [enclosed_of_spells h]
  refine ⟨completeStream_of_spells h, readRows?_streamBytes h.isFramed, ?_, ?_⟩
  · intro row hrow value hvalue
    exact Value.read?_field (h.isWritable row hrow value hvalue).1
  · intro others otherRows hothers hstream
    rw [enclosed_of_spells hothers] at hstream
    exact streamBytes_inj hothers.isFramed h.isFramed hstream

/-- Rows whose payloads look like nulls, like counts and like the trailer. -/
def imitatingRows : List (List Value) := [
  [.long (some (-1)), .null, .text (some "\uffff")],
  [],
  [.timestamp (some ⟨1999, 12, 31, 23, 59, 59, 999999, some (-60000000)⟩), .text none,
    .geometry (some ⟨.point .plane none, -1⟩)]]

/-- Their items, with headers between the rows and inside of them. -/
def imitatingItems : List Item := [
  .header, .rowStart 3, .long (some (-1)), .null, .header, .text (some "\uffff"), .header, .header,
  .rowStart 0, .rowStart 3,
  .timestamp (some ⟨1999, 12, 31, 23, 59, 59, 999999, some (-60000000)⟩), .text none,
  .geometry (some ⟨.point .plane none, -1⟩), .header]

theorem spells_imitatingItems : Spells imitatingItems imitatingRows where
  items_eq := rfl
  length_lt := by decide
  isWritable := by decide +kernel

theorem readRows?_enclosed_imitatingItems :
    Spells imitatingItems imitatingRows ∧
      readRows? (enclosed imitatingItems).2 = some (fieldsOf imitatingRows) := by
  obtain ⟨-, hread, -⟩ := readRows?_enclosed spells_imitatingItems
  exact ⟨spells_imitatingItems, hread⟩

end Rows

end Copy
end VectorTiles
