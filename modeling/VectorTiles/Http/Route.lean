import VectorTiles.Http.Message

/-!
# Routes

**Rules.** A path leads to a route when it is its text; the path of a tile has three parts that are
not empty and hold no slash, the last one up to the ending. A line feed at the end of a path does
not count. A path that leads to a route without the slashes at its end is redirected.

**Results.**

* `route?`: the route of a path.
* `redirection?`: the address to which a path is redirected.
-/

namespace VectorTiles
namespace Http

/-- What a path leads to. The parts of a tile path are still to be read as numbers. -/
inductive Route where
  | tileJson
  | tile (z x y : String)
  | headers
  | latestHeader
  | health
  deriving DecidableEq, Repr

def tileEnding : List Char := ".mvt".toList

def withoutLineFeed (path : List Char) : List Char :=
  if path.getLast? = some '\n' then path.dropLast else path

/-- A part in front of the ending of a tile path. -/
def beforeEnding? (part : List Char) : Option (List Char) :=
  let size := part.length - tileEnding.length
  if tileEnding.length < part.length ∧ part.drop size = tileEnding then some (part.take size)
  else none

def tileParts? (path : List Char) : Option Route :=
  match segments path with
  | [[], ['t', 'i', 'l', 'e', 's'], z, x, last] =>
    if z.isEmpty || x.isEmpty then none
    else (beforeEnding? last).map fun y =>
      .tile (String.ofList z) (String.ofList x) (String.ofList y)
  | _ => none

/-- The route of a path. -/
def route? (path : String) : Option Route :=
  let cs := withoutLineFeed path.toList
  match String.ofList cs with
  | "/tiles.json" => some .tileJson
  | "/api/replication/headers" => some .headers
  | "/api/replication/latest" => some .latestHeader
  | "/health" => some .health
  | _ => tileParts? cs

def withoutEndSlash (path : String) : String :=
  String.ofList ((path.toList.reverse.dropWhile (· == '/')).reverse)

/-- The address to which a request is redirected whose path leads nowhere. -/
def redirection? (host : String) (target : Target) : Option String :=
  let path := withoutEndSlash target.path
  if path ≠ target.path ∧ (route? path).isSome then
    let server := target.server.getD ⟨"http", host⟩
    let query := (target.query.map ("?" ++ ·)).getD ""
    some (String.ofList
      (escapeAddress (server.display.toList ++ escapePath path.toList ++ query.toList)))
  else none

end Http
end VectorTiles
