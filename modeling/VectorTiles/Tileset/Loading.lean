import VectorTiles.Log
import VectorTiles.Tileset.Document
import VectorTiles.Tileset.Files

/-!
# Loading a tileset

**Results.**

* `Tileset.load`: the tileset whose document stands in a file. Success is recorded.
* `LoadFault.message`: the wording of a failure.
-/

namespace VectorTiles

/-- Why a tileset cannot be loaded. -/
inductive LoadFault where
  /-- The path holds the character U+0000, which no path can. -/
  | impossiblePath
  | unreadable (path : String) (problem : FileProblem)
  | rejected (issues : List Schema.Issue)
  deriving DecidableEq, Repr

/-- The wording of a failure to load. -/
def LoadFault.message : LoadFault → String
  | impossiblePath => "embedded null byte"
  | unreadable path problem =>
    "cannot read tileset " ++ Text.quoted path ++ ": " ++ problem.message path
  | rejected issues => Tileset.rejection issues

namespace Tileset

/-- What is recorded when a tileset has been loaded. -/
def loadedRecord (tileset : Tileset) (path : String) : Log.Record :=
  ⟨.info, "Loaded tileset " ++ tileset.name ++ " from " ++ path ++ " (" ++
    toString tileset.layers.length ++ " layers, zoom " ++ tileset.range.display ++ ")"⟩

/-- Reads the tileset at a path in its normal form. -/
def load (files : Files) (path : String) : Log.Recorded (Except LoadFault Tileset) :=
  if path.toList.contains '\x00' then (.error .impossiblePath, [])
  else
    match files.read path with
    | .error problem => (.error (.unreadable path problem), [])
    | .ok content =>
      match ofBytes content with
      | .error issues => (.error (.rejected issues), [])
      | .ok tileset => (.ok tileset, [tileset.loadedRecord path])

end Tileset
end VectorTiles
