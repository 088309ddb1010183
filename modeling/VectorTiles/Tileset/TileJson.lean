import VectorTiles.Tileset.Basic

/-!
# TileJSON

The document that tells clients which tiles there are: the metadata of a tileset, the address
template of its tiles, and its layers without their queries.

**Results.**

* `Tileset.tileJson`: the document as a JSON value.
-/

namespace VectorTiles

def withoutEndSlashes (url : String) : String :=
  String.ofList ((url.toList.reverse.dropWhile (· == '/')).reverse)

/-- The address template of tiles below a base address. -/
def tileTemplate (url : String) : String :=
  withoutEndSlashes url ++ "/tiles/\x7bz\x7d/\x7bx\x7d/\x7by\x7d.mvt"

/-- A layer as clients see it. -/
def Layer.tileJson (layer : Layer) : Json :=
  .object [
    ("id", .string layer.name),
    ("description", .string (layer.description.getD "")),
    ("fields", .object layer.properties),
    ("minzoom", .int layer.range.min),
    ("maxzoom", .int layer.range.max)]

namespace Tileset

def optionalMembers (tileset : Tileset) : List (String × Json) :=
  (tileset.description.map fun text => ("description", .string text)).toList ++
    (tileset.attribution.map fun text => ("attribution", .string text)).toList ++
    (tileset.bounds.map fun bounds => ("bounds", .array (bounds.toList.map .float))).toList ++
    (tileset.center.map fun center => ("center", .array (center.toList.map .float))).toList

/-- The TileJSON document of a tileset that is served below a base address. -/
def tileJson (tileset : Tileset) (url : String) : Json :=
  .object ([
    ("tilejson", .string "3.0.0"),
    ("name", .string tileset.name),
    ("scheme", .string "xyz"),
    ("tiles", .array [.string (tileTemplate url)]),
    ("minzoom", .int tileset.range.min),
    ("maxzoom", .int tileset.range.max),
    ("vector_layers", .array (tileset.layers.map Layer.tileJson))] ++ tileset.optionalMembers)

end Tileset
end VectorTiles
