import VectorTiles.Database.Numeral

/-!
# Replication headers

A replication header describes one state of the source data: its sequence number is its key, the
other parts say when the state was reached and where it came from.

**Data.** A stored header is what a row of the header table holds. Its key has been read as a
number; the other columns are passed on as they are.

**Results.**

* `Header.row`: the parameters that store a header, in the order of the columns.
* `StoredHeader.ofRow`: the header of a result row.
* `Header.stored`: the stored form of a header, the one its row reads back as.
-/

namespace VectorTiles
namespace Replication

open Database

/-- The state of the source data that a sequence number stands for. -/
structure Header where
  sequenceNumber : Int
  timestamp : Option Timestamp
  url : Option String
  source : Option String
  writingProgram : Option String
  deriving DecidableEq, Repr

/-- A row of the header table. -/
structure StoredHeader where
  sequenceNumber : Int
  timestamp : Cell
  url : Cell
  source : Cell
  writingProgram : Cell
  deriving DecidableEq, Repr

def textCell (value : Option String) : Cell :=
  (value.map Cell.text).getD .null

def timestampCell (value : Option Timestamp) : Cell :=
  (value.map Cell.timestamp).getD .null

namespace Header

def stored (header : Header) : StoredHeader :=
  ⟨header.sequenceNumber, timestampCell header.timestamp, textCell header.url,
    textCell header.source, textCell header.writingProgram⟩

def textParam (value : Option String) : Param :=
  (value.map Param.text).getD .null

def row (header : Header) : List Param :=
  [.int header.sequenceNumber, (header.timestamp.map Param.timestamp).getD .null,
    textParam header.url, textParam header.source, textParam header.writingProgram]

end Header

namespace StoredHeader

/-- The header of a row, which has one cell for each column. -/
def ofRow : Row → Except CellFault StoredHeader
  | [key, timestamp, url, source, writingProgram] =>
    key.toInteger.map fun n => ⟨n, timestamp, url, source, writingProgram⟩
  | _ => .error .wrongWidth

def ofRows : List Row → Except CellFault (List StoredHeader)
  | [] => .ok []
  | row :: rows => do
    let first ← ofRow row
    let rest ← ofRows rows
    return first :: rest

/-- The header with a key among headers, the last one if there are several. -/
def find? (key : Int) (headers : List StoredHeader) : Option StoredHeader :=
  headers.reverse.find? (·.sequenceNumber == key)

end StoredHeader

end Replication
end VectorTiles
