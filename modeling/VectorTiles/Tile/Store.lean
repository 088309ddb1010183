import VectorTiles.Database.Session
import VectorTiles.Tile.StatementCache

/-!
# Tile store

A store renders the tiles of one tileset with a database. The coordinate is checked first, then
the statement of its zoom level is compiled or found, and only a statement with layers is executed.

**Results.**

* `execute`: the tile that a statement returns for a coordinate.
* `Store.read`: the tile at a coordinate. A tile without content is none.
* `ReadFault.message`: the wording of a failure.
-/

namespace VectorTiles
namespace Tile

open Database

/-- Why a tile cannot be read. -/
inductive ReadFault where
  | offGrid (coord : TileCoord)
  | uncompilable (fault : CompileFault)
  | otherZoom (compiled asked : Int)
  | execution (tileset : String) (coord : TileCoord) (error : DriverError)
  /-- An error in a call that the driver does not know. -/
  | foreign (text : String)
  | unreadable (fault : CellFault)
  deriving DecidableEq, Repr

/-- The wording of a failure, where it has one of its own. -/
def ReadFault.message : ReadFault → String
  | offGrid coord => "invalid tile coordinate " ++ coord.display
  | uncompilable fault => fault.message
  | otherZoom compiled asked =>
    "statement compiled for zoom " ++ toString compiled ++ ", not " ++ toString asked
  | execution tileset coord error =>
    "tile " ++ coord.display ++ " of tileset " ++ Text.quoted tileset ++ ": " ++
      error.className ++ ": " ++ error.text
  | foreign text => text
  | unreadable _ => ""

/-- Binary data that hold something. -/
def nonEmpty (content : List UInt8) : Option (List UInt8) :=
  if content.isEmpty then none else some content

/-- The tile in the first column of a row. No row, a null and empty data are tiles without
content. -/
def tileOfRow : Option Row → Except CellFault (Option (List UInt8))
  | none => .ok none
  | some [] => .error .missing
  | some (.null :: _) => .ok none
  | some (cell :: _) => cell.toBytes.map nonEmpty

section Execution

variable {σ : Type}

def renderSession (server : Server σ) (statement : Statement) (coord : TileCoord) :
    Session σ (Option Row) :=
  withConnection server <| withCursor server do
    Database.execute server statement.sql (some ((statement.bind coord).map Param.int))
    fetchOne server

/-- What a fault of the session means for the tile. -/
def executionFault (tileset : String) (coord : TileCoord) : Fault → ReadFault
  | .driver error => .execution tileset coord error
  | .foreign text => .foreign text

/-- Executes a statement for a coordinate of its zoom level. -/
def execute (server : Server σ) (tileset : String) (statement : Statement) (coord : TileCoord)
    (activity : Activity σ) : Except ReadFault (Option (List UInt8)) × Activity σ :=
  if statement.zoom ≠ coord.z then (.error (.otherZoom statement.zoom coord.z), activity)
  else
    match renderSession server statement coord activity with
    | (.error fault, activity) => (.error (executionFault tileset coord fault), activity)
    | (.ok row, activity) => ((tileOfRow row).mapError .unreadable, activity)

end Execution

/-- A tileset with the statements compiled so far. -/
structure Store where
  tileset : Tileset
  cache : StatementCache

namespace Store

variable {σ : Type}

/-- A store that has not been asked for a tile yet. -/
def ofTileset (tileset : Tileset) : Store :=
  ⟨tileset, .empty⟩

/-- What a store answers: a tile or a fault, what happened on the way, and the store after it. -/
structure Reading (σ : Type) where
  outcome : Except ReadFault (Option (List UInt8))
  activity : Activity σ
  store : Store

/-- Reads the tile at a coordinate. -/
def read (store : Store) (server : Server σ) (coord : TileCoord) (state : σ) : Reading σ :=
  if !coord.isOnGrid then ⟨.error (.offGrid coord), Activity.start state, store⟩
  else
    let answer := store.cache.get store.tileset coord.z
    let activity : Activity σ := ⟨state, [], answer.records⟩
    let store := { store with cache := answer.cache }
    match answer.statement with
    | .error fault => ⟨.error (.uncompilable fault), activity, store⟩
    | .ok statement =>
      if statement.isEmpty then ⟨.ok none, activity, store⟩
      else
        let (outcome, activity) :=
          execute server store.tileset.name statement coord activity
        ⟨outcome, activity, store⟩

/-- Executes a statement that was compiled elsewhere. -/
def executeForeign (store : Store) (server : Server σ) (statement : Statement) (coord : TileCoord)
    (state : σ) : Reading σ :=
  let (outcome, activity) :=
    execute server store.tileset.name statement coord (Activity.start state)
  ⟨outcome, activity, store⟩

end Store
end Tile
end VectorTiles
