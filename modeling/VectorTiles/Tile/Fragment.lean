import VectorTiles.Sql.Literal
import VectorTiles.Sql.Source
import VectorTiles.Text.Quoted
import VectorTiles.Tileset.Basic

/-!
# Layer fragments

A fragment is the part of a tile statement that renders one layer: it clips the shapes that the
source query returns to the envelope of the tile and encodes them as one layer. The envelope
appears twice, the second time with a margin as the filter of the shapes, and each time with a
zoom level, a column and a row.

**Results.**

* `fragmentText`: the text of a fragment around its name, its source and its envelopes.
* `layerFragment?`: the fragment of a layer at a zoom level, if the layer appears there.
* `CompileFault.message`: the wording of a failure.
-/

namespace VectorTiles
namespace Tile

section Template

/-- Width and height of a tile, in the units of its coordinates. -/
def extent : String := "4096"

/-- How far shapes reach beyond the edges of a tile, in the same units. -/
def buffer : String := "64"

/-- The reach beyond the edges as a part of the extent. -/
def margin : String := buffer ++ ".0/" ++ extent

def beforeName : List Char :=
  "(SELECT ST_AsMVT(mvtGeom.*, ".toList

def beforeEnvelope : List Char :=
  (", " ++ extent ++ ", 'geom', 'id') FROM (SELECT ST_AsMVTGeom(t.geom, ST_TileEnvelope(").toList

def beforeSource : List Char :=
  ("), " ++ extent ++ ", " ++ buffer ++ ", true) AS geom, t.tags - 'id' AS tags, t.id AS id " ++
    "FROM (SELECT * FROM (").toList

def beforeFilter : List Char :=
  (") AS t1 (id, tags, geom) WHERE t1.geom IS NOT NULL " ++
    "AND t1.geom && ST_TileEnvelope(").toList

def fragmentEnd : List Char :=
  (", margin => (" ++ margin ++ "))) AS t) AS mvtGeom)").toList

/-- The text of a fragment. The source is renamed by position to the columns that the fragment
needs. -/
def fragmentText (name source envelope : List Char) : List Char :=
  beforeName ++ name ++ beforeEnvelope ++ envelope ++ beforeSource ++ source ++
    beforeFilter ++ envelope ++ fragmentEnd

/-- The arguments of an envelope before the driver puts numbers in their place. -/
def envelopePlaceholders : List Char :=
  "%s, %s, %s".toList

end Template

section Embedding

/-- Whether a text holds two hyphens in a row, which may begin a comment. -/
def holdsHyphens : List Char → Bool
  | '-' :: '-' :: _ => true
  | _ :: rest => holdsHyphens rest
  | [] => false

/-- The text with a line end behind it if it may end in a line comment, so that the comment ends
before whatever follows. -/
def endingComment (source : List Char) : List Char :=
  if holdsHyphens source then source ++ ['\n'] else source

/-- A source query as it stands in a fragment. -/
def embeddedSource (sql : List Char) : List Char :=
  endingComment (Sql.escapePercent (Text.strip sql))

end Embedding

/-- Why a statement cannot be compiled. -/
inductive CompileFault where
  | zoomOutOfRange (zoom : Int)
  | unquotable (name : String)
  | source (layer : String) (range : ZoomRange) (fault : Sql.SourceFault)
  deriving DecidableEq, Repr

/-- The wording of a failure to compile. -/
def CompileFault.message : CompileFault → String
  | zoomOutOfRange zoom => "zoom " ++ toString zoom ++ " is out of range"
  | unquotable name => "cannot embed " ++ Text.quoted name ++ " as a SQL literal"
  | source layer range fault =>
    "layer " ++ Text.quoted layer ++ " (zoom " ++ range.display ++ "): " ++ fault.message

/-- The literal of a text, or the reason why it has none. -/
def quoteLiteral (text : String) : Except CompileFault (List Char) :=
  match Sql.quoteLiteral? text.toList with
  | some literal => .ok literal
  | none => .error (.unquotable text)

/-- The fragment of a layer around one of its queries. The query is checked before the name. -/
def queryFragment (layer : Layer) (query : Query) : Except CompileFault (List Char) :=
  match Sql.checkSource query.sql.toList with
  | .error fault => .error (.source layer.name query.range fault)
  | .ok () =>
    (quoteLiteral layer.name).map fun name =>
      fragmentText name (embeddedSource query.sql.toList) envelopePlaceholders

/-- The fragment of a layer at a zoom level, or none when no query serves it. -/
def layerFragment? (layer : Layer) (zoom : Int) : Except CompileFault (Option (List Char)) :=
  match layer.queryAt? zoom with
  | none => .ok none
  | some query => (queryFragment layer query).map some

end Tile
end VectorTiles
