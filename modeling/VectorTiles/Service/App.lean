import VectorTiles.Http.Origin
import VectorTiles.Http.Route
import VectorTiles.Replication.MemoryLog
import VectorTiles.Replication.TableLog
import VectorTiles.Settings.Basic
import VectorTiles.Tile.Store
import VectorTiles.Tileset.TileJson

/-!
# The service

The service answers requests for tiles, for the description of the tileset and for the replication
headers. The text of a database error goes into the log, never into a response.

**Rules.** Of a tile that cannot be read, the status says why: 404 when there is no such tile, 500
when the tileset cannot be compiled, 503 when the database fails. A tile without content has the
status 204. An error that belongs to none of these families gives a plain response of status 500.

**Results.**

* `App.respond`: the response to a request, what happened on the way, and the service after it.
-/

namespace VectorTiles
namespace Service

open Database Http

/-- Where the replication headers are kept. -/
inductive HeaderLog where
  | memory (log : Replication.MemoryLog)
  | table (table : Replication.Table)

/-- The service with its settings and its state. -/
structure App where
  settings : Settings
  store : Tile.Store
  headers : HeaderLog

/-- A response, and what happened on the way to it. -/
structure Reply (σ : Type) where
  response : Response
  activity : Activity σ

section Content

mutual

/-- A value as it is sent: a number that JSON cannot write is sent as null. -/
def sent : Json → Json
  | .float x => if x.isFinite then .float x else .null
  | .array items => .array (sentItems items)
  | .object members => .object (sentMembers members)
  | value => value

/-- The items of an array as they are sent. -/
def sentItems : List Json → List Json
  | [] => []
  | item :: items => sent item :: sentItems items

/-- The members of an object as they are sent. -/
def sentMembers : List (String × Json) → List (String × Json)
  | [] => []
  | (name, value) :: members => (name, sent value) :: sentMembers members

end

/-- The cell of a header as it is sent. Binary data are sent as text; a buffer cannot be sent. -/
def cellJson? : Cell → Option Json
  | .null => some .null
  | .int value => some (.int value)
  | .bool value => some (.bool value)
  | .text value => some (.string value)
  | .bytes content => (String.fromUTF8? ⟨content.toArray⟩).map .string
  | .buffer _ => none
  | .timestamp value => some (.string value.jsonText)

def headerJson? (header : Replication.StoredHeader) : Option Json := do
  let timestamp ← cellJson? header.timestamp
  let url ← cellJson? header.url
  let source ← cellJson? header.source
  let writingProgram ← cellJson? header.writingProgram
  return .object [
    ("replication_sequence_number", .int header.sequenceNumber),
    ("replication_timestamp", timestamp),
    ("replication_url", url),
    ("source", source),
    ("writing_program", writingProgram)]

/-- The response to an error that belongs to no family. -/
def failure : Response :=
  Response.text 500 "Internal Server Error"

def valueResponse (value : Option Json) : Response :=
  match value with
  | some value => Response.json 200 (sent value)
  | none => failure

end Content

section Tiles

/-- The media type of tiles. -/
def tileType : String := "application/vnd.mapbox-vector-tile"

/-- An issue with a part of a path, as it is sent. -/
def partIssue (name : String) (text : String) (issue : Schema.Issue) : Json :=
  .object [
    ("type", .string issue.cause.code),
    ("loc", .array [.string "path", .string name]),
    ("msg", .string issue.cause.message),
    ("input", .string text)]

/-- A part of a path as a whole number, or the issues with it as they are sent. -/
def readPart (name text : String) : Except (List Json) Int :=
  (Schema.integerOfText text).mapError fun issues => issues.map (partIssue name text)

def issuesOf (part : Except (List Json) Int) : List Json :=
  match part with
  | .ok _ => []
  | .error issues => issues

/-- The coordinate of the parts of a path, or the issues with them in their order. -/
def readCoord (z x y : String) : Except (List Json) TileCoord :=
  match readPart "z" z, readPart "x" x, readPart "y" y with
  | .ok z, .ok x, .ok y => .ok ⟨z, x, y⟩
  | z, x, y => .error (issuesOf z ++ issuesOf x ++ issuesOf y)

def noTile : Response :=
  Response.detail 404 "Tile not found"

/-- The response to a failure to read a tile, with what is recorded about it. -/
def tileFailure (coord : TileCoord) (fault : Tile.ReadFault) : Response × List Log.Record :=
  match fault with
  | .offGrid _ | .otherZoom _ _ | .uncompilable (.zoomOutOfRange _)
  | .unreadable .negativeSize => (noTile, [])
  | .uncompilable _ =>
    (Response.detail 500 "Tileset configuration error",
      [⟨.error, "Cannot compile tileset at zoom " ++ toString coord.z ++ ": " ++ fault.message⟩])
  | .execution _ _ _ =>
    (Response.detail 503 ("Tile " ++ coord.display ++ " could not be rendered"),
      [⟨.error, "Failed to render tile " ++ coord.display ++ ": " ++ fault.message⟩])
  | .foreign _ | .unreadable _ => (failure, [])

/-- The response for what was read at a coordinate, with what is recorded about it. -/
def tileResponse (coord : TileCoord) :
    Except Tile.ReadFault (Option (List UInt8)) → Response × List Log.Record
  | .ok none => (Response.bare 204, [])
  | .ok (some content) => (Response.data 200 tileType content, [])
  | .error fault => tileFailure coord fault

end Tiles

section Headers

/-- The response to a failure of the header log, with what is recorded about it. -/
def logFailure (fault : Replication.LogFault) : Response × List Log.Record :=
  if fault.isOwn then
    (Response.detail 503 "Replication headers are unavailable",
      [⟨.error, "Failed to read replication headers: " ++ fault.message⟩])
  else (failure, [])

/-- The response for the answer of the header log, with what is recorded about it. -/
def headerResponse :
    Except Replication.LogFault Replication.Answer → Response × List Log.Record
  | .error fault => logFailure fault
  | .ok (.headers found) =>
    (valueResponse (((found.filterMap id).mapM headerJson?).map .array), [])
  | .ok (.header (some header)) => (valueResponse (headerJson? header), [])
  | .ok _ => (Response.detail 404 "No replication header recorded", [])

end Headers

namespace App

variable {σ : Type}

/-- A response that needed nothing. -/
def idle (state : σ) (response : Response) : Reply σ :=
  ⟨response, Activity.start state⟩

def behind (activity : Activity σ) (response : Response × List Log.Record) : Reply σ :=
  ⟨response.1, { activity with records := activity.records ++ response.2 }⟩

/-- Asks the header log. Reading does not change it. -/
def askHeaders (app : App) (server : Server σ) (state : σ) (operation : Replication.Operation) :
    Except Replication.LogFault Replication.Answer × Activity σ :=
  match app.headers with
  | .memory log => ((log.perform operation).1, Activity.start state)
  | .table table => table.perform server state operation

/-- The response for the tile that a path names, and the service after it. -/
def respondTile (app : App) (server : Server σ) (state : σ) (z x y : String) : Reply σ × App :=
  match readCoord z x y with
  | .error issues =>
    (idle state (Response.json 422 (.object [("detail", .array issues)])), app)
  | .ok coord =>
    let reading := app.store.read server coord state
    (behind reading.activity (tileResponse coord reading.outcome),
      { app with store := reading.store })

/-- The response for a route, and the service after it. -/
def respondRoute (app : App) (server : Server σ) (state : σ) : Route → Reply σ × App
  | .health => (idle state (Response.json 200 (.object [("status", .string "ok")])), app)
  | .tileJson =>
    (idle state
      (valueResponse (some (app.store.tileset.tileJson app.settings.publicUrl))), app)
  | .tile z x y => app.respondTile server state z x y
  | .headers =>
    let (answer, activity) := app.askHeaders server state .selectAll
    (behind activity (headerResponse answer), app)
  | .latestHeader =>
    let (answer, activity) := app.askHeaders server state .selectLatest
    (behind activity (headerResponse answer), app)

/-- The response to a request that does not ask in advance, and the service after it. -/
def respondPlain (app : App) (server : Server σ) (state : σ) (request : Request) :
    Reply σ × App :=
  match route? request.target.path with
  | some route =>
    if request.method = allowedMethod then app.respondRoute server state route
    else
      (idle state
        ((Response.detail 405 "Method Not Allowed").withHeader "allow" allowedMethod), app)
  | none =>
    match redirection? request.host request.target with
    | some address => (idle state ((Response.bare 307).withHeader "location" address), app)
    | none => (idle state (Response.detail 404 "Not Found"), app)

/-- Whether a response tells pages of other origins what they may read: one to an error that
belongs to no family does not. -/
def isOrdinary (response : Response) : Bool :=
  response.status != 500 || response.contentType != failure.contentType

/-- The response to a request, and the service after it. -/
def respond (app : App) (server : Server σ) (state : σ) (request : Request) : Reply σ × App :=
  match preflight? app.settings.allowOrigins request with
  | some response => (idle state response, app)
  | none =>
    let (reply, app) := app.respondPlain server state request
    if isOrdinary reply.response then
      ({ reply with response := allowOrigin app.settings.allowOrigins request reply.response },
        app)
    else (reply, app)

end App
end Service
end VectorTiles
