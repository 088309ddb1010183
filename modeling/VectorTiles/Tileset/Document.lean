import VectorTiles.Json.Reader
import VectorTiles.Schema.Convert
import VectorTiles.Text.Quoted
import VectorTiles.Tileset.Basic

/-!
# Tileset documents

**Input.** A JSON object. A layer may give its name as `name` or as `id`, and its properties as
`properties` or as `fields`. Members with other names are ignored.

**Rules.** The members of a record are checked in the order of its declaration, and the issues of
all of them are reported. What concerns several members of one record is checked only when each
of them is in order: the ends of a range, and the names of the layers.

**Results.**

* `Query.ofJson`, `Layer.ofJson`, `Tileset.ofJson`: the value that a JSON value describes.
* `Tileset.ofText`, `Tileset.ofBytes`, `Layer.ofText`: what a document describes.
* `Tileset.ofValue`, `Layer.ofValue`: what a document with a given value describes.
* `rejection`: the wording of a refusal.
-/

namespace VectorTiles

open Schema

/-- A zoom level. -/
def toZoom (value : Json) : Checked Int := do
  atMost highestZoom (← atLeast lowestZoom (← toInteger value))

/-- Refuses a range whose ends are out of order. -/
def ZoomRange.check (range : ZoomRange) (owner : String) : Checked Unit :=
  if range.max < range.min then
    .reject (.rejected (owner ++ " minzoom (" ++ toString range.min ++
      ") is greater than maxzoom (" ++ toString range.max ++ ")"))
  else .ok ()

/-- The source query that a value describes. -/
def Query.ofJson (value : Json) : Checked Query := do
  let members ← toRecord value
  let query ← (((Checked.build fun low high sql => (⟨⟨low, high⟩, sql⟩ : Query)).apply
    (required members "minzoom" [] toZoom)).apply
    (required members "maxzoom" [] toZoom)).apply
    (required members "sql" [] toText)
  query.range.check "query"
  return query

namespace Layer

/-- A text that can name a layer: not blank, and without the character U+0000. -/
def checkName (name : String) : Checked String :=
  if (Text.strip name.toList).isEmpty then
    .reject (.rejected "layer name must not be empty")
  else if name.toList.contains '\x00' then
    .reject (.rejected "layer name must not contain NUL characters")
  else .ok name

def ofJson (value : Json) : Checked Layer := do
  let members ← toRecord value
  let layer ← ((((((Checked.build fun name description properties low high queries =>
      (⟨name, description, properties, ⟨low, high⟩, queries⟩ : Layer)).apply
    (required members "name" ["id"] fun value => do checkName (← toText value))).apply
    (optional members ["description"] none (toOptional toText))).apply
    (optional members ["properties", "fields"] [] toMembers)).apply
    (required members "minzoom" [] toZoom)).apply
    (required members "maxzoom" [] toZoom)).apply
    (optional members ["queries"] [] (toItems Query.ofJson))
  layer.range.check ("layer " ++ Text.quoted layer.name)
  return layer

end Layer

/-- The layer that a document with the given value describes. -/
def Layer.ofValue (value : Json) : Checked Layer :=
  if value.isWithin Json.Limits.document then Layer.ofJson value else .reject .notJson

def Layer.ofText (text : String) : Checked Layer :=
  match Json.read Json.Limits.document text with
  | .ok value => Layer.ofJson value
  | .error _ => .reject .notJson

/-- Four numbers. -/
def Bounds.ofJson (value : Json) : Checked Bounds := do
  let items ← toPlaces 4 value
  ((((Checked.build Bounds.mk).apply
    (place items toNumber 0)).apply
    (place items toNumber 1)).apply
    (place items toNumber 2)).apply
    (place items toNumber 3)

/-- Three numbers. -/
def Center.ofJson (value : Json) : Checked Center := do
  let items ← toPlaces 3 value
  (((Checked.build Center.mk).apply
    (place items toNumber 0)).apply
    (place items toNumber 1)).apply
    (place items toNumber 2)

/-- The first name that stands for a second time, after names that were `seen` before. -/
def firstRepeated? (seen : List String) : List String → Option String
  | [] => none
  | name :: names =>
    if seen.contains name then some name else firstRepeated? (name :: seen) names

namespace Tileset

/-- Refuses two layers of one name. -/
def checkNames (tileset : Tileset) : Checked Unit :=
  match firstRepeated? [] (tileset.layers.map (·.name)) with
  | some name => .reject (.rejected ("duplicate layer name " ++ Text.quoted name))
  | none => .ok ()

def ofJson (value : Json) : Checked Tileset := do
  let members ← toRecord value
  let tileset ← ((((((((Checked.build
      fun name description attribution low high bounds center layers =>
        (⟨name, description, attribution, ⟨low, high⟩, bounds, center, layers⟩ : Tileset)).apply
    (optional members ["name"] "tileset" toText)).apply
    (optional members ["description"] none (toOptional toText))).apply
    (optional members ["attribution"] none (toOptional toText))).apply
    (required members "minzoom" [] toZoom)).apply
    (required members "maxzoom" [] toZoom)).apply
    (optional members ["bounds"] none (toOptional Bounds.ofJson))).apply
    (optional members ["center"] none (toOptional Center.ofJson))).apply
    (optional members ["vector_layers"] [] (toItems Layer.ofJson))
  tileset.range.check "tileset"
  tileset.checkNames
  return tileset

/-- The tileset that a document with the given value describes. -/
def ofValue (value : Json) : Checked Tileset :=
  if value.isWithin Json.Limits.document then ofJson value else .reject .notJson

def ofText (text : String) : Checked Tileset :=
  match Json.read Json.Limits.document text with
  | .ok value => ofJson value
  | .error _ => .reject .notJson

/-- The tileset that an encoded text describes. -/
def ofBytes (bytes : List UInt8) : Checked Tileset :=
  match Json.readBytes Json.Limits.document bytes with
  | .ok value => ofJson value
  | .error _ => .reject .notJson

/-- The wording of the refusal of a document with these issues. -/
def rejection (issues : List Issue) : String :=
  "invalid tileset: " ++ toString issues.length ++
    (if issues.length = 1 then " validation error" else " validation errors") ++ " for Tileset"

end Tileset
end VectorTiles
