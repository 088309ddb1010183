import VectorTiles.Tile.Statement

/-!
# Compiled statements

The statements of a tileset are compiled when they are first needed and kept by zoom level. A
statement without layers is kept too; a failure is not, and is found again when the zoom level is
asked for again.

**Results.**

* `StatementCache.get`: the statement of a zoom level, and the cache after it was asked for.
-/

namespace VectorTiles
namespace Tile

/-- The statements compiled so far, by zoom level. -/
structure StatementCache where
  entries : List (Int × Statement)
  deriving DecidableEq, Repr

namespace StatementCache

def empty : StatementCache := ⟨[]⟩

def size (cache : StatementCache) : Nat :=
  cache.entries.length

/-- The statement that is kept for a zoom level. -/
def get? (cache : StatementCache) (zoom : Int) : Option Statement :=
  cache.entries.lookup zoom

/-- What the cache answers for a zoom level of a tileset. -/
structure Answer where
  statement : Except CompileFault Statement
  records : List Log.Record
  cache : StatementCache

/-- The statement of a zoom level, compiled unless it is kept already. -/
def get (cache : StatementCache) (tileset : Tileset) (zoom : Int) : Answer :=
  match cache.get? zoom with
  | some statement => ⟨.ok statement, [], cache⟩
  | none =>
    match compile tileset zoom with
    | (.error fault, records) => ⟨.error fault, records, cache⟩
    | (.ok statement, records) => ⟨.ok statement, records, ⟨(zoom, statement) :: cache.entries⟩⟩

end StatementCache
end Tile
end VectorTiles
