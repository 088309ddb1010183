import VectorTiles.Json.Basic
import VectorTiles.Text.Blank

/-!
# Tilesets

A tileset groups named layers of vector tiles. A layer has a range of zoom levels and a list of
source queries, each for a range of its own; of those that cover a zoom level, the first one that
was declared serves it.

**Data.** Both ends of a range belong to it. The ranges of a layer and of its queries need not lie
inside each other, nor inside the range of the tileset.

**Results.**

* `ZoomRange.covers`: whether a zoom level lies in a range.
* `Layer.queryAt?`: the query that serves a zoom level.
* `Tileset.IsConsistent`: what a document has to satisfy beyond its shape.
-/

namespace VectorTiles

def lowestZoom : Int := 0

def highestZoom : Int := 30

/-- A range of zoom levels, both ends included. -/
structure ZoomRange where
  min : Int
  max : Int
  deriving DecidableEq, Repr

/-- Whether a zoom level lies in the range. -/
def ZoomRange.covers (range : ZoomRange) (zoom : Int) : Bool :=
  range.min ≤ zoom && zoom ≤ range.max

def ZoomRange.display (range : ZoomRange) : String :=
  toString range.min ++ "-" ++ toString range.max

/-- The zoom levels at which tiles can exist. -/
def everyZoom : ZoomRange := ⟨lowestZoom, highestZoom⟩

/-- A source query: it returns an identifier, the tags and the shape of each feature. -/
structure Query where
  range : ZoomRange
  sql : String
  deriving DecidableEq, Repr

/-- A named layer with its source queries. The properties are passed on unread. -/
structure Layer where
  name : String
  description : Option String
  properties : List (String × Json)
  range : ZoomRange
  queries : List Query

/-- A rectangle of longitudes and latitudes. -/
structure Bounds where
  west : Binary64
  south : Binary64
  east : Binary64
  north : Binary64
  deriving DecidableEq, Repr

/-- The position and the zoom level at which a map opens. -/
structure Center where
  longitude : Binary64
  latitude : Binary64
  zoom : Binary64
  deriving DecidableEq, Repr

def Bounds.toList (b : Bounds) : List Binary64 :=
  [b.west, b.south, b.east, b.north]

def Center.toList (c : Center) : List Binary64 :=
  [c.longitude, c.latitude, c.zoom]

/-- A tileset. Tiles hold its layers in their order. -/
structure Tileset where
  name : String
  description : Option String
  attribution : Option String
  range : ZoomRange
  bounds : Option Bounds
  center : Option Center
  layers : List Layer

namespace Layer

/-- The query that serves a zoom level: the first one that covers it, if the layer does. -/
def queryAt? (layer : Layer) (zoom : Int) : Option Query :=
  if layer.range.covers zoom then layer.queries.find? (·.range.covers zoom) else none

/-- The position of that query in its layer. -/
def indexAt? (layer : Layer) (zoom : Int) : Option Nat :=
  if layer.range.covers zoom then layer.queries.findIdx? (·.range.covers zoom) else none

end Layer

section Consistency

/-- Both ends are zoom levels, in order. -/
def ZoomRange.IsProper (range : ZoomRange) : Prop :=
  lowestZoom ≤ range.min ∧ range.min ≤ range.max ∧ range.max ≤ highestZoom

instance (range : ZoomRange) : Decidable range.IsProper :=
  inferInstanceAs (Decidable (_ ∧ _ ∧ _))

/-- A text that can name a layer. -/
def IsLayerName (name : String) : Prop :=
  ¬ Text.IsBlankText name.toList ∧ '\x00' ∉ name.toList

instance (name : String) : Decidable (IsLayerName name) :=
  inferInstanceAs (Decidable (_ ∧ _))

def Layer.IsConsistent (layer : Layer) : Prop :=
  IsLayerName layer.name ∧ layer.range.IsProper ∧ ∀ query ∈ layer.queries, query.range.IsProper

/-- Ranges are proper, layer names are usable, and no two layers share a name. -/
def Tileset.IsConsistent (tileset : Tileset) : Prop :=
  tileset.range.IsProper ∧ (∀ layer ∈ tileset.layers, layer.IsConsistent) ∧
    (tileset.layers.map (·.name)).Nodup

end Consistency

end VectorTiles
