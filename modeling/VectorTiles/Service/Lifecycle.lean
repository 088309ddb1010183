import VectorTiles.Database.Pool
import VectorTiles.Service.App
import VectorTiles.Settings.Sources
import VectorTiles.Tileset.Loading

/-!
# The life of the service

The service reads its settings, loads the tileset, opens a pool, answers requests and closes the
pool. The tileset is loaded before the pool is opened, so a tileset that cannot be used never
reaches the database.

**Rules.** An environment file that is there has to hold a text, and has to be readable.

**Results.**

* `settingsOf`: the settings of a service.
* `start`: the settings and the tileset of a service that can start, or why it cannot.
* `live`: a whole life of the service.
-/

namespace VectorTiles
namespace Service

open Database Http

/-- Why an environment file that is there gives no text. -/
inductive EnvFileFault where
  /-- Its bytes are not UTF-8. -/
  | notText
  /-- Its content may not be read. -/
  | denied
  deriving DecidableEq, Repr

/-- Why the service does not start. -/
inductive StartFault where
  | envFile (fault : EnvFileFault)
  | settings (fault : SettingsFault)
  | tileset (fault : LoadFault)
  deriving DecidableEq, Repr

/-- A request, if it can be sent, together with the connection that is there for it. -/
structure Visit (σ : Type) where
  request : Except SendFault Request
  server : Server σ
  state : σ

/-- The text of the environment file, if there is such a file. A directory in its place counts as
none. -/
def envText (files : Files) : Except EnvFileFault (Option String) :=
  match files.read SourceOptions.filePath with
  | .ok content =>
    match String.fromUTF8? ⟨content.toArray⟩ with
    | some text => .ok (some text)
    | none => .error .notText
  | .error .denied => .error .denied
  | .error _ => .ok none

/-- The sources of the settings of a service. -/
def sources (files : Files) (environment : List (String × String)) :
    Except EnvFileFault SettingSources := do
  let text ← envText files
  return ⟨[], environment, text⟩

/-- The settings of a service. The environment file is read before any text of the environment is
decoded. -/
def settingsOf (files : Files) (environment : List (String × String)) :
    Except StartFault Settings := do
  let sources ← (sources files environment).mapError .envFile
  (Settings.ofSources sources).mapError .settings

/-- The settings and the tileset of the service, with what is recorded about them. -/
def start (files : Files) (environment : List (String × String)) :
    Log.Recorded (Except StartFault (Settings × Tileset)) :=
  match settingsOf files environment with
  | .error fault => (.error fault, [])
  | .ok settings =>
    match Tileset.load files settings.tilesetPath with
    | (.error fault, records) => (.error (.tileset fault), records)
    | (.ok tileset, records) => (.ok (settings, tileset), records)

/-- The service of a tileset, with the headers in the standard table. -/
def App.ofTileset (settings : Settings) (tileset : Tileset) : App :=
  ⟨settings, Tile.Store.ofTileset tileset, .table Replication.Table.standard⟩

/-- The replies to visits one after the other, up to the first request that cannot be sent. -/
def App.serve {σ : Type} (app : App) : List (Visit σ) → List (Reply σ) × Option SendFault
  | [] => ([], none)
  | visit :: visits =>
    match visit.request with
    | .error fault => ([], some fault)
    | .ok request =>
      let (reply, app) := app.respond visit.server visit.state request
      let (replies, fault) := app.serve visits
      (reply :: replies, fault)

/-- What happens to the pool as a whole. -/
inductive PoolEvent where
  | opened (options : PoolOptions)
  | closed
  deriving DecidableEq, Repr

/-- What happens in a life of the service. -/
inductive LifeEvent (σ : Type) where
  | pool (event : PoolEvent)
  | answered (reply : Reply σ)

def LifeEvent.poolEvent? {σ : Type} : LifeEvent σ → Option PoolEvent
  | pool event => some event
  | answered _ => none

def LifeEvent.reply? {σ : Type} : LifeEvent σ → Option (Reply σ)
  | pool _ => none
  | answered reply => some reply

/-- What a life of the service leaves behind. -/
structure Life (σ : Type) where
  /-- Why it did not start, if it did not. -/
  fault : Option StartFault
  /-- What happened, in its order. -/
  events : List (LifeEvent σ)
  /-- Why its last request could not be sent, if there was such a request. -/
  unsent : Option SendFault
  records : List Log.Record

def Life.poolEvents {σ : Type} (life : Life σ) : List PoolEvent :=
  life.events.filterMap LifeEvent.poolEvent?

def Life.replies {σ : Type} (life : Life σ) : List (Reply σ) :=
  life.events.filterMap LifeEvent.reply?

/-- What is recorded before the pool is closed. -/
def closingRecord : Log.Record :=
  ⟨.info, "Closing connection pool"⟩

/-- The life of a service with a pool, which is closed whatever the replies are. -/
def withPool {σ : Type} (options : PoolOptions) (replies : List (Reply σ)) : List (LifeEvent σ) :=
  .pool (.opened options) :: replies.map .answered ++ [.pool .closed]

/-- The life of a service that is visited so many times. It ends when a request cannot be sent. -/
def live {σ : Type} (files : Files) (environment : List (String × String))
    (visits : List (Visit σ)) : Life σ :=
  match start files environment with
  | (.error fault, records) => ⟨some fault, [], none, records⟩
  | (.ok (settings, tileset), records) =>
    let (replies, unsent) := (App.ofTileset settings tileset).serve visits
    ⟨none, withPool (PoolOptions.ofSettings settings) replies, unsent,
      records ++ PoolOptions.openRecord settings ::
        (replies.flatMap fun reply => reply.activity.records) ++ [closingRecord]⟩

end Service
end VectorTiles
