import VectorTiles.Tileset.Basic

/-!
# Tile coordinates

At zoom level `z` the map is a square grid of `2 ^ z` columns and as many rows.

**Results.**

* `TileCoord.isOnGrid`: whether a coordinate names a tile of a zoom level at which tiles exist.
-/

namespace VectorTiles

/-- A zoom level, a column and a row. -/
structure TileCoord where
  z : Int
  x : Int
  y : Int
  deriving DecidableEq, Repr

namespace TileCoord

/-- How many columns and rows the grid of a zoom level has. -/
def gridSize (zoom : Int) : Int :=
  Int.pow 2 zoom.toNat

/-- Whether the zoom level exists and the column and the row lie in its grid. -/
def isOnGrid (c : TileCoord) : Bool :=
  everyZoom.covers c.z &&
    (decide (0 ≤ c.x) && decide (c.x < gridSize c.z) &&
      decide (0 ≤ c.y) && decide (c.y < gridSize c.z))

/-- The display of a coordinate in messages and addresses. -/
def display (c : TileCoord) : String :=
  toString c.z ++ "/" ++ toString c.x ++ "/" ++ toString c.y

end TileCoord
end VectorTiles
