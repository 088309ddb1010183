import VectorTiles.Copy.Stream
import VectorTiles.Geometry.Decoding
import VectorTiles.Geometry.Outline
import VectorTiles.Time.IsoForm

/-!
# Writing a bulk load stream

**Data.** A stream is written item by item. An item that cannot be written adds nothing. The header
is written once, however often it is asked for.

**Results.**

* `Item.encode`: the bytes of an item.
* `Writer.write`: the stream with an item behind it.
* `enclosed`: a stream that begins with the header and ends with the trailer unless one of its
  items fails.
-/

namespace VectorTiles
namespace Copy

/-- Why an item cannot be written. -/
inductive Fault where
  /-- The text of a value does not say which value it is. -/
  | unreadable
  /-- A number does not fit into its width. -/
  | outOfRange
  /-- A timestamp has no reading in UTC. -/
  | noUtcReading
  | geometry (fault : Geometry.DecodeFault)
  | outline (fault : Geometry.OutlineFault)
  deriving DecidableEq, Repr

/-- A part of a stream. -/
inductive Item where
  | header
  | trailer
  | rowStart (fields : Int)
  | null
  | long (value : Option Int)
  | text (value : Option String)
  | timestamp (value : Option Timestamp)
  /-- A timestamp in its ISO form. -/
  | timestampText (text : String)
  | geometry (value : Option Geometry)
  /-- A geometry in its binary form, spelled in hexadecimal digits. -/
  | geometryText (digits : String)
  /-- A geometry that is still to be built, in a reference system. -/
  | outline (value : Geometry.Outline) (srid : Int)

section Encoding

def orOutOfRange (bytes : Option (List UInt8)) : Except Fault (List UInt8) :=
  match bytes with
  | some bytes => .ok bytes
  | none => .error .outOfRange

/-- A field that is null when there is no value. -/
def nullable {α : Type} (encode : α → Except Fault (List UInt8)) :
    Option α → Except Fault (List UInt8)
  | some value => do orOutOfRange (field? (← encode value))
  | none => .ok nullField

/-- A whole number of 64 bits. -/
def encodeLong (value : Int) : Except Fault (List UInt8) :=
  orOutOfRange (signed? 8 value)

def encodeText (value : String) : Except Fault (List UInt8) :=
  .ok value.toUTF8.toList

/-- The microseconds since the beginning of the year 2000, in UTC. -/
def encodeTimestamp (value : Timestamp) : Except Fault (List UInt8) :=
  match value.sinceMillennium? with
  | some n => encodeLong n
  | none => .error .noUtcReading

def Item.encode : Item → Except Fault (List UInt8)
  | header => .ok Copy.header
  | trailer => .ok Copy.trailer
  | rowStart fields => orOutOfRange (rowStart? fields)
  | null => .ok nullField
  | long value => nullable encodeLong value
  | text value => nullable encodeText value
  | timestamp value => nullable encodeTimestamp value
  | timestampText form =>
    match Timestamp.ofText? form with
    | some value => nullable encodeTimestamp (some value)
    | none => .error .unreadable
  | geometry value => nullable (fun g => .ok g.encode) value
  | geometryText digits =>
    match (Text.ofSpacedHex? digits.toList).map Geometry.decode with
    | none => .error .unreadable
    | some (.error fault) => .error (.geometry fault)
    | some (.ok g) => nullable (fun g => .ok g.encode) (some g)
  | outline value srid =>
    match value.geometry srid with
    | .error fault => .error (.outline fault)
    | .ok g => nullable (fun g => .ok g.encode) (some g)

end Encoding

/-- A stream in the making. -/
structure Writer where
  stream : List UInt8
  hasHeader : Bool
  deriving DecidableEq, Repr

namespace Writer

def empty : Writer := ⟨[], false⟩

/-- What an item adds to the stream. -/
def addition (writer : Writer) (item : Item) : Except Fault (List UInt8) :=
  match item with
  | .header => if writer.hasHeader then .ok [] else Item.encode .header
  | item => item.encode

/-- The stream with more bytes behind it, which came from an item. -/
def append (writer : Writer) (item : Item) (bytes : List UInt8) : Writer :=
  ⟨writer.stream ++ bytes,
    writer.hasHeader || match item with | .header => true | _ => false⟩

def write (writer : Writer) (item : Item) : Except Fault Writer :=
  (writer.addition item).map (writer.append item)

/-- Tries every item and leaves out those that fail. The first component says what each of them
added. -/
def tryAll (writer : Writer) : List Item → List (Except Fault (List UInt8)) × Writer
  | [] => ([], writer)
  | item :: items =>
    match writer.addition item with
    | .ok bytes =>
      let (outcomes, writer) := (writer.append item bytes).tryAll items
      (.ok bytes :: outcomes, writer)
    | .error fault =>
      let (outcomes, writer) := writer.tryAll items
      (.error fault :: outcomes, writer)

/-- Writes items up to the first one that fails. The first component says what each of them added,
the failing one included. -/
def writeAll (writer : Writer) : List Item → List (Except Fault (List UInt8)) × Writer
  | [] => ([], writer)
  | item :: items =>
    match writer.addition item with
    | .ok bytes =>
      let (outcomes, writer) := (writer.append item bytes).writeAll items
      (.ok bytes :: outcomes, writer)
    | .error fault => ([.error fault], writer)

end Writer

/-- Whether an outcome is a failure. -/
def hasFailed {α : Type} : Except Fault α → Bool
  | .ok _ => false
  | .error _ => true

/-- The stream that begins with the header and goes on with the items up to the first one that
fails; if none does, the trailer ends it. -/
def enclosed (items : List Item) : List (Except Fault (List UInt8)) × List UInt8 :=
  let opened := Writer.empty.append .header header
  let (outcomes, writer) := opened.writeAll items
  (outcomes, if outcomes.any hasFailed then writer.stream else writer.stream ++ trailer)

/-- The complete stream of items, or the first failure. -/
def completeStream (items : List Item) : Except Fault (List UInt8) :=
  let (outcomes, stream) := enclosed items
  match outcomes.getLast? with
  | some (.error fault) => .error fault
  | _ => .ok stream

end Copy
end VectorTiles
