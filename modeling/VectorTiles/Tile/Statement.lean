import VectorTiles.Log
import VectorTiles.Tile.Coord
import VectorTiles.Tile.Fragment

/-!
# Tile statements

The statement of a tileset at a zoom level returns a whole tile: the fragments of all layers that
appear there, joined in the order of the layers.

**Data.** A statement has one slot for each placeholder, in the order of the placeholders; the slot
says which part of a coordinate goes there.

**Results.**

* `compile`: the statement of a tileset at a zoom level, with what is recorded about it.
* `Statement.bind`: the parameters for a tile.
-/

namespace VectorTiles
namespace Tile

/-- A part of a tile coordinate. -/
inductive Slot where
  | z
  | x
  | y
  deriving DecidableEq, Repr

def Slot.name : Slot → String
  | z => "z"
  | x => "x"
  | y => "y"

/-- The part of a coordinate that goes into a slot. -/
def Slot.value (coord : TileCoord) : Slot → Int
  | z => coord.z
  | x => coord.x
  | y => coord.y

def envelopeSlots : List Slot := [.z, .x, .y]

/-- The slots of a fragment, which has two envelopes. -/
def fragmentSlots : List Slot := envelopeSlots ++ envelopeSlots

/-- A statement for the tiles of one zoom level. -/
structure Statement where
  zoom : Int
  sql : String
  layers : List String
  slots : List Slot
  deriving DecidableEq, Repr

namespace Statement

/-- A statement without layers needs no database: its tile is empty. -/
def isEmpty (statement : Statement) : Bool :=
  statement.layers.isEmpty

def bind (statement : Statement) (coord : TileCoord) : List Int :=
  statement.slots.map (Slot.value coord)

def empty (zoom : Int) : Statement :=
  ⟨zoom, "SELECT NULL::bytea AS mvtTile", [], []⟩

/-- Fragments joined to the text of a statement. -/
def joined (fragments : List (List Char)) : List Char :=
  "SELECT ".toList ++ List.intercalate " || ".toList fragments ++ " AS mvtTile".toList

/-- The statement of layers with these names and fragments. -/
def ofFragments (zoom : Int) (fragments : List (String × List Char)) : Statement :=
  ⟨zoom, String.ofList (joined (fragments.map (·.2))), fragments.map (·.1),
    fragments.flatMap fun _ => fragmentSlots⟩

end Statement

/-- The names and fragments of the layers that appear at a zoom level, up to the first fault. -/
def fragmentsAt (zoom : Int) : List Layer → Except CompileFault (List (String × List Char))
  | [] => .ok []
  | layer :: layers => do
    let fragment ← layerFragment? layer zoom
    let rest ← fragmentsAt zoom layers
    match fragment with
    | some text => return (layer.name, text) :: rest
    | none => return rest

/-- The statement of a tileset at a zoom level. -/
def compile (tileset : Tileset) (zoom : Int) : Log.Recorded (Except CompileFault Statement) :=
  if !everyZoom.covers zoom then (.error (.zoomOutOfRange zoom), [])
  else if !tileset.range.covers zoom then
    (.ok (Statement.empty zoom),
      [⟨.debug, "Zoom " ++ toString zoom ++ " is outside " ++ tileset.name⟩])
  else
    match fragmentsAt zoom tileset.layers with
    | .error fault => (.error fault, [])
    | .ok [] =>
      (.ok (Statement.empty zoom),
        [⟨.debug, "No layers of " ++ tileset.name ++ " apply at zoom " ++ toString zoom⟩])
    | .ok fragments =>
      (.ok (Statement.ofFragments zoom fragments),
        [⟨.debug, "Compiled " ++ tileset.name ++ " at zoom " ++ toString zoom ++
          " with layers " ++ ", ".intercalate (fragments.map (·.1))⟩])

end Tile
end VectorTiles
