import VectorTiles.Bytes.Word

/-!
# Bulk load streams

The database reads rows in bulk from a stream of bytes: a fixed header, the rows, and a trailer.
A row is a count of fields in 16 bits and the fields; a field is a length in 32 bits and so many
bytes, or the length -1 alone for null. All numbers are signed and in big-endian order. The
trailer is the count -1.

**Results.**

* `header`, `trailer`, `rowStart?`, `nullField`, `field?`: the parts of a stream.
* `readRows?`: the rows of a complete stream.
-/

namespace VectorTiles
namespace Copy

section Writing

/-- A signed number of `width` bytes. -/
def signed (width : Nat) (n : Int) : List UInt8 :=
  Bytes.bigEndian width (Bytes.pattern width n)

/-- A signed number of `width` bytes, if it fits. -/
def signed? (width : Nat) (n : Int) : Option (List UInt8) :=
  if Bytes.Fits width n then some (signed width n) else none

/-- What every stream begins with, so that damage in transport shows. -/
def signature : List UInt8 :=
  [0x50, 0x47, 0x43, 0x4f, 0x50, 0x59, 0x0a, 0xff, 0x0d, 0x0a, 0x00]

/-- The signature, no flags, and an empty extension. -/
def header : List UInt8 :=
  signature ++ signed 4 0 ++ signed 4 0

def trailer : List UInt8 := signed 2 (-1)

def rowStart? (fields : Int) : Option (List UInt8) := signed? 2 fields

def nullField : List UInt8 := signed 4 (-1)

/-- A field with its length in front, if the length fits. -/
def field? (payload : List UInt8) : Option (List UInt8) :=
  (signed? 4 payload.length).map (· ++ payload)

end Writing

section Reading

/-- A field of a row, null or bytes. -/
abbrev Field := Option (List UInt8)

/-- The bytes up to a length and the bytes behind, if there are enough. -/
def split? (count : Nat) (bytes : List UInt8) : Option (List UInt8 × List UInt8) :=
  if count ≤ bytes.length then some (bytes.take count, bytes.drop count) else none

/-- A signed number of `width` bytes, and the bytes behind. -/
def readSigned? (width : Nat) (bytes : List UInt8) : Option (Int × List UInt8) :=
  (split? width bytes).map fun (word, rest) =>
    (Bytes.ofPattern width (Bytes.ofBigEndian word), rest)

def readField? (bytes : List UInt8) : Option (Field × List UInt8) := do
  let (length, rest) ← readSigned? 4 bytes
  if length = -1 then return (none, rest)
  else if length < 0 then none
  else
    let (payload, rest) ← split? length.toNat rest
    return (some payload, rest)

def readFields? : Nat → List UInt8 → Option (List Field × List UInt8)
  | 0, bytes => some ([], bytes)
  | count + 1, bytes => do
    let (first, rest) ← readField? bytes
    let (others, rest) ← readFields? count rest
    return (first :: others, rest)

/-- The rows up to the trailer, behind which nothing may stand. Each row is paid from the fuel. -/
def readTuples? : Nat → List UInt8 → Option (List (List Field))
  | 0, _ => none
  | fuel + 1, bytes => do
    let (count, rest) ← readSigned? 2 bytes
    if count = -1 then if rest.isEmpty then return [] else none
    else if count < 0 then none
    else
      let (row, rest) ← readFields? count.toNat rest
      let rows ← readTuples? fuel rest
      return row :: rows

/-- The rows of a complete stream. -/
def readRows? (stream : List UInt8) : Option (List (List Field)) :=
  if header.isPrefixOf stream then
    readTuples? (stream.length + 1) (stream.drop header.length)
  else none

end Reading

end Copy
end VectorTiles
