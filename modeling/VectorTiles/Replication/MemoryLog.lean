import VectorTiles.Replication.Operation

/-!
# Header logs in memory

**Data.** The headers of a log are kept in descending order of their sequence numbers, without
repetition.

**Results.**

* `MemoryLog.perform`: the answer to a request, and the log after it. Requests to create, drop or
  truncate a table fail.
* `MemoryLog.duplicates`: the keys that prevent a bulk load.
-/

namespace VectorTiles
namespace Replication

/-- A header log without a database. -/
structure MemoryLog where
  headers : List Header
  deriving DecidableEq, Repr

namespace MemoryLog

def empty : MemoryLog := ⟨[]⟩

/-- Puts a header at its place among headers in descending order. -/
def insertHeader (header : Header) : List Header → List Header
  | [] => [header]
  | other :: rest =>
    if other.sequenceNumber < header.sequenceNumber then header :: other :: rest
    else if other.sequenceNumber = header.sequenceNumber then header :: rest
    else other :: insertHeader header rest

def get? (log : MemoryLog) (key : Int) : Option Header :=
  log.headers.find? (·.sequenceNumber == key)

/-- Keeps a header, in the place of one with the same key. -/
def put (log : MemoryLog) (header : Header) : MemoryLog :=
  ⟨insertHeader header log.headers⟩

def putMany (log : MemoryLog) (headers : List Header) : MemoryLog :=
  headers.foldl put log

/-- Forgets the header with a key, if there is one. -/
def delete (log : MemoryLog) (key : Int) : MemoryLog :=
  ⟨log.headers.filter (·.sequenceNumber != key)⟩

def deleteMany (log : MemoryLog) (keys : List Int) : MemoryLog :=
  keys.foldl delete log

/-- The header with the greatest key. -/
def latest? (log : MemoryLog) : Option Header :=
  log.headers.head?

/-- Puts a number at its place among numbers in ascending order, unless it is there already. -/
def insertKey (key : Int) : List Int → List Int
  | [] => [key]
  | other :: rest =>
    if key < other then key :: other :: rest
    else if key = other then other :: rest
    else other :: insertKey key rest

/-- The keys that the log has already or that occur more than once among the headers, in ascending
order. -/
def duplicates (log : MemoryLog) (headers : List Header) : List Int :=
  let keys := headers.map (·.sequenceNumber)
  (keys.filter fun key => (log.get? key).isSome || 1 < keys.count key).foldr insertKey []

/-- Loads new headers, all or none. -/
def load (log : MemoryLog) (headers : List Header) : Except LogFault MemoryLog :=
  match log.duplicates headers with
  | [] => .ok (log.putMany headers)
  | keys => .error (.duplicates keys)

/-- The answer to a request, and the log after it. -/
def perform (log : MemoryLog) : Operation → Except LogFault Answer × MemoryLog
  | .create | .drop | .truncate => (.error .withoutTable, log)
  | .get key => (.ok (.header ((log.get? key).map Header.stored)), log)
  | .getMany keys =>
    (.ok (.headers (keys.map fun key => (log.get? key).map Header.stored)), log)
  | .put header => (.ok .done, log.put header)
  | .putMany headers => (.ok .done, log.putMany headers)
  | .delete key => (.ok .done, log.delete key)
  | .deleteMany keys => (.ok .done, log.deleteMany keys)
  | .load headers =>
    match log.load headers with
    | .ok log => (.ok .done, log)
    | .error fault => (.error fault, log)
  | .selectAll => (.ok (.headers (log.headers.map fun header => some header.stored)), log)
  | .selectLatest => (.ok (.header (log.latest?.map Header.stored)), log)

end MemoryLog
end Replication
end VectorTiles
