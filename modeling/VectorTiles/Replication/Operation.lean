import VectorTiles.Copy.Writer
import VectorTiles.Database.Session
import VectorTiles.Replication.Header

/-!
# Operations on a header log

A header log keeps replication headers by sequence number. Writing a header replaces one with the
same number; loading headers in bulk does not.

**Results.**

* `Operation`, `Answer`: what a log is asked, and what it answers.
* `LogFault.message`: the wording of a failure.
-/

namespace VectorTiles
namespace Replication

open Database

/-- A request to a header log. -/
inductive Operation where
  | create
  | drop
  | truncate
  | get (key : Int)
  | getMany (keys : List Int)
  | put (header : Header)
  | putMany (headers : List Header)
  | delete (key : Int)
  | deleteMany (keys : List Int)
  | load (headers : List Header)
  | selectAll
  | selectLatest
  deriving DecidableEq, Repr

/-- The answer to a request. -/
inductive Answer where
  | done
  | header (found : Option StoredHeader)
  | headers (found : List (Option StoredHeader))
  deriving DecidableEq, Repr

/-- Why a request fails. The first two are failures of the log itself. -/
inductive LogFault where
  | duplicates (keys : List Int)
  | database (error : DriverError)
  /-- An error in a call that the driver does not know. -/
  | foreign (text : String)
  | unreadable (fault : CellFault)
  | unwritable (fault : Copy.Fault)
  /-- There is no table that could be created, dropped or truncated. -/
  | withoutTable
  deriving DecidableEq, Repr

/-- A list of numbers in brackets. -/
def displayKeys (keys : List Int) : String :=
  "[" ++ ", ".intercalate (keys.map toString) ++ "]"

/-- The wording of a failure, where it has one of its own. -/
def LogFault.message : LogFault → String
  | duplicates keys => "duplicate replication sequence numbers: " ++ displayKeys keys
  | database error => "header repository operation failed: " ++ error.text
  | foreign text => text
  | unreadable _ | unwritable _ | withoutTable => ""

/-- Whether a failure is one of the log itself, which callers are told about as such. -/
def LogFault.isOwn : LogFault → Bool
  | duplicates _ | database _ => true
  | _ => false

end Replication
end VectorTiles
