import VectorTiles.Proofs.Http.TilePath
import VectorTiles.Proofs.Schema.Numeral
import VectorTiles.Proofs.Tile.TameReading
import VectorTiles.Service.Lifecycle

/-!
# Answers to requests for tiles

What the service answers when it is asked for tiles of an accepted tileset.

**Rules.** The status of an answer tells what became of the tile. A failure is recorded once, and
nothing else is recorded as a failure. What a service was asked before makes no difference to what it
answers next.

**Results.**

* `IsTileAnswer`, `isTileAnswer_respond`: the answer to a request for a tile.
* `isTileRequest_of_path`: the path by which a tile is asked for.
* `App.IsBehind.respond`: a request keeps the cache exact, and its answer is that of a service which
  was not asked for anything before.
* `isAnswered_serve`: the answers to requests one after the other.
-/

namespace VectorTiles
namespace Service

open Database Http

section Answers

open Tile

/-- A response with the content of a tile. -/
def HasContent (response : Response) (content : List UInt8) : Prop :=
  if content = [] then response.status = 204 ∧ response.body = .empty
  else response.status = 200 ∧ response.contentType = some tileType ∧ response.body = .bytes content

/-- How many failures are recorded. -/
def failureCount (records : List Log.Record) : Nat :=
  records.countP (·.level = .error)

/-- The answer to a request for a tile, and the failures that are recorded about it. -/
structure IsTileAnswer (tileset : Tileset) (coord : TileCoord) (events : List Event)
    (response : Response) (failures : Nat) : Prop where
  notFound_iff : response.status = 404 ↔ ¬ coord.IsTile
  misconfigured_iff : response.status = 500 ↔
    coord.IsTile ∧ ∃ fault, (compile tileset coord.z).1 = .error fault
  unavailable_iff : response.status = 503 ↔
    ∃ statement, IsRendered tileset coord statement ∧ IsInterrupted events
  of_applies_nil : coord.IsTile → Applies tileset coord.z [] →
    response.status = 204 ∧ response.body = .empty
  of_isRendered : ∀ statement, IsRendered tileset coord statement → ¬ IsInterrupted events →
    ∃ rows, IsFetched events statement coord rows ∧ HasContent response (tileContent rows)
  eq_nil : (∀ statement, ¬ IsRendered tileset coord statement) → events = []
  failures_eq : failures = if response.status = 500 ∨ response.status = 503 then 1 else 0

variable {σ : Type} {tileset : Tileset} {coord : TileCoord} {statement : Statement}
  {outcome : Except ReadFault (Option (List UInt8))} {events : List Event}

theorem isTileAnswer_offGrid (htile : ¬ coord.IsTile) :
    IsTileAnswer tileset coord [] noTile 0 where
  notFound_iff := iff_of_true rfl htile
  misconfigured_iff := iff_of_false (by decide) fun h => htile h.1
  unavailable_iff := iff_of_false (by decide) fun ⟨_, h, _⟩ => htile h.isTile
  of_applies_nil h := absurd h htile
  of_isRendered _ h := absurd h.isTile htile
  eq_nil _ := rfl
  failures_eq := rfl

theorem isTileAnswer_uncompilable {fault : CompileFault} (haccepted : tileset.IsAccepted)
    (htile : coord.IsTile) (hcompile : (compile tileset coord.z).1 = .error fault) (text : String) :
    IsTileAnswer tileset coord [] (Response.detail 500 text) 1 where
  notFound_iff := iff_of_false (by simp [Response.detail, Response.json]) (not_not_intro htile)
  misconfigured_iff := iff_of_true rfl ⟨htile, fault, hcompile⟩
  unavailable_iff := by
    refine iff_of_false (by simp [Response.detail, Response.json]) ?_
    rintro ⟨statement, hrendered, -⟩
    exact hrendered.compile_ne_error fault hcompile
  of_applies_nil _ happlies := by
    obtain ⟨statement, hok, -⟩ := exists_compile_eq_ok haccepted htile happlies
    rw [hcompile] at hok
    cases hok
  of_isRendered _ hrendered := absurd hcompile (hrendered.compile_ne_error fault)
  eq_nil _ := rfl
  failures_eq := rfl

theorem isTileAnswer_empty (htile : coord.IsTile)
    (hcompile : (compile tileset coord.z).1 = .ok statement) (hempty : statement.layers = []) :
    IsTileAnswer tileset coord [] (Response.bare 204) 0 where
  notFound_iff := iff_of_false (by simp [Response.bare]) (not_not_intro htile)
  misconfigured_iff := iff_of_false (by simp [Response.bare]) (by simp [hcompile])
  unavailable_iff := by
    refine iff_of_false (by simp [Response.bare]) ?_
    rintro ⟨other, hrendered, -⟩
    exact hrendered.not_applies_nil ((layers_eq_nil_iff hcompile).mp hempty)
  of_applies_nil _ _ := ⟨rfl, rfl⟩
  of_isRendered _ hrendered :=
    absurd ((layers_eq_nil_iff hcompile).mp hempty) hrendered.not_applies_nil
  eq_nil _ := rfl
  failures_eq := rfl

theorem isTileAnswer_interrupted (hrendered : IsRendered tileset coord statement)
    (hinterrupted : IsInterrupted events) (text : String) :
    IsTileAnswer tileset coord events (Response.detail 503 text) 1 where
  notFound_iff :=
    iff_of_false (by simp [Response.detail, Response.json]) (not_not_intro hrendered.isTile)
  misconfigured_iff :=
    iff_of_false (by simp [Response.detail, Response.json]) (by simp [hrendered.compile_eq])
  unavailable_iff := iff_of_true rfl ⟨statement, hrendered, hinterrupted⟩
  of_applies_nil _ happlies := absurd happlies hrendered.not_applies_nil
  of_isRendered _ _ hcalm := absurd hinterrupted hcalm
  eq_nil h := absurd hrendered (h statement)
  failures_eq := rfl

theorem isTileAnswer_fetched {rows : List Row} {response : Response}
    (hrendered : IsRendered tileset coord statement) (hcalm : ¬ IsInterrupted events)
    (hfetched : IsFetched events statement coord rows)
    (hcontent : HasContent response (tileContent rows)) :
    IsTileAnswer tileset coord events response 0 := by
  have hstatus : response.status = 204 ∨ response.status = 200 := by
    rw [HasContent] at hcontent
    split_ifs at hcontent
    · exact .inl hcontent.1
    · exact .inr hcontent.1
  constructor
  case notFound_iff => exact iff_of_false (by omega) (not_not_intro hrendered.isTile)
  case misconfigured_iff => exact iff_of_false (by omega) (by simp [hrendered.compile_eq])
  case unavailable_iff => exact iff_of_false (by omega) fun ⟨_, _, h⟩ => hcalm h
  case of_applies_nil => exact fun _ happlies => absurd happlies hrendered.not_applies_nil
  case of_isRendered =>
    intro other hother _
    obtain rfl := hrendered.eq hother
    exact ⟨rows, hfetched, hcontent⟩
  case eq_nil => exact fun h => absurd hrendered (h statement)
  case failures_eq =>
    rw [if_neg]
    omega

theorem hasContent_tileResponse (coord : TileCoord) (content : List UInt8) :
    HasContent (tileResponse coord (.ok (nonEmpty content))).1 content := by
  cases content with
  | nil => exact ⟨rfl, rfl⟩
  | cons byte content => exact ⟨rfl, rfl, rfl⟩

/-- **Every way of a reading is answered as documented.** -/
theorem isTileAnswer_tileResponse (haccepted : tileset.IsAccepted)
    (h : TileCourse tileset coord outcome events) :
    IsTileAnswer tileset coord events (tileResponse coord outcome).1
      (failureCount (tileResponse coord outcome).2) := by
  cases h with
  | offGrid htile => exact isTileAnswer_offGrid htile
  | uncompilable htile hcompile => exact isTileAnswer_uncompilable haccepted htile hcompile _
  | empty htile hcompile hempty => exact isTileAnswer_empty htile hcompile hempty
  | interrupted hrendered hinterrupted hlast =>
      exact isTileAnswer_interrupted hrendered hinterrupted _
  | @fetched statement rows _ hrendered hcalm hlast hfetched =>
      have hrecords : (tileResponse coord (.ok (nonEmpty (tileContent rows)))).2 = [] := by
        cases nonEmpty (tileContent rows) <;> rfl
      rw [hrecords]
      exact isTileAnswer_fetched hrendered hcalm hfetched (hasContent_tileResponse coord _)

end Answers

section Independence

variable {σ : Type} {tileset : Tileset} {app origin : App}

/-- Two replies that cannot be told apart by whoever receives them, nor by the database. -/
structure Reply.IsLike (reply other : Reply σ) : Prop where
  response_eq : reply.response = other.response
  calls_eq : reply.activity.calls = other.activity.calls

theorem Reply.IsLike.refl (reply : Reply σ) : reply.IsLike reply :=
  ⟨rfl, rfl⟩

namespace App

/-- A service before it is asked for anything. -/
def fresh (app : App) (tileset : Tileset) : App :=
  { app with store := Tile.Store.ofTileset tileset }

/-- A service in the course of requests, with an exact cache. -/
structure IsBehind (app : App) (tileset : Tileset) (origin : App) : Prop where
  fresh_eq : app.fresh tileset = origin
  exists_isExact : ∃ asked, app.store.IsExact tileset asked

theorem isBehind_fresh (app : App) (tileset : Tileset) :
    (app.fresh tileset).IsBehind tileset (app.fresh tileset) :=
  ⟨rfl, _, Tile.Store.isExact_ofTileset tileset⟩

theorem IsBehind.settings_eq (h : app.IsBehind tileset origin) : app.settings = origin.settings := by
  rw [← h.fresh_eq]
  rfl

theorem IsBehind.isBehind_origin (h : app.IsBehind tileset origin) : origin.IsBehind tileset origin := by
  rw [← h.fresh_eq]
  exact isBehind_fresh app tileset

theorem IsBehind.respondTile (h : app.IsBehind tileset origin) (server : Server σ) (state : σ)
    (z x y : String) :
    (app.respondTile server state z x y).1.IsLike (origin.respondTile server state z x y).1 ∧
      (app.respondTile server state z x y).2.IsBehind tileset origin := by
  obtain ⟨rfl, asked, hexact⟩ := h
  rw [App.respondTile, App.respondTile]
  cases readCoord z x y with
  | error issues => exact ⟨.refl _, rfl, asked, hexact⟩
  | ok coord =>
      have hread := hexact.isLike_read server coord state
      refine ⟨⟨?_, hread.calls_eq⟩, rfl, _, hexact.read server state⟩
      simp only [App.behind, App.fresh, hread.outcome_eq]

theorem IsBehind.respondRoute (h : app.IsBehind tileset origin) (server : Server σ) (state : σ)
    (route : Route) :
    (app.respondRoute server state route).1.IsLike (origin.respondRoute server state route).1 ∧
      (app.respondRoute server state route).2.IsBehind tileset origin := by
  cases route with
  | tile z x y => exact h.respondTile server state z x y
  | tileJson =>
      obtain ⟨rfl, asked, ⟨rfl, hcache⟩⟩ := h
      exact ⟨.refl _, rfl, asked, rfl, hcache⟩
  | health => exact ⟨.refl _, h⟩
  | headers =>
      obtain ⟨rfl, hexact⟩ := h
      exact ⟨.refl _, rfl, hexact⟩
  | latestHeader =>
      obtain ⟨rfl, hexact⟩ := h
      exact ⟨.refl _, rfl, hexact⟩

theorem IsBehind.respondPlain (h : app.IsBehind tileset origin) (server : Server σ) (state : σ)
    (request : Request) :
    (app.respondPlain server state request).1.IsLike (origin.respondPlain server state request).1 ∧
      (app.respondPlain server state request).2.IsBehind tileset origin := by
  rw [App.respondPlain, App.respondPlain]
  cases route? request.target.path with
  | some route =>
      simp only
      split_ifs
      · exact h.respondRoute server state route
      · exact ⟨.refl _, h⟩
  | none =>
      cases redirection? request.host request.target with
      | some address => exact ⟨.refl _, h⟩
      | none => exact ⟨.refl _, h⟩

/-- **The reply to any request is that of a service which is asked for the first time.** -/
theorem IsBehind.respond (h : app.IsBehind tileset origin) (server : Server σ) (state : σ)
    (request : Request) :
    (app.respond server state request).1.IsLike (origin.respond server state request).1 ∧
      (app.respond server state request).2.IsBehind tileset origin := by
  obtain ⟨hlike, hbehind⟩ := h.respondPlain server state request
  obtain ⟨-, hfirst⟩ := h.isBehind_origin.respondPlain server state request
  rw [App.respond, App.respond, h.settings_eq]
  cases preflight? origin.settings.allowOrigins request with
  | some response => exact ⟨.refl _, h⟩
  | none =>
      simp only [hlike.response_eq, hbehind.settings_eq, hfirst.settings_eq]
      split_ifs
      · exact ⟨⟨rfl, hlike.calls_eq⟩, hbehind⟩
      · exact ⟨hlike, hbehind⟩

end App

end Independence

section Requests

/-- A request for the tile at a coordinate. -/
structure IsTileRequest (request : Request) (coord : TileCoord) : Prop where
  method_eq : request.method = allowedMethod
  exists_route : ∃ z x y, route? request.target.path = some (.tile z x y) ∧
    readCoord z x y = .ok coord

/-- The path of the tile at a coordinate. -/
def tilePath (coord : TileCoord) : String :=
  "/tiles/" ++ coord.display ++ ".mvt"

theorem isPathPart_toString {n : Int} (h : n.natAbs < 10 ^ Schema.numeralLimit) :
    IsPathPart (toString n).toList := by
  have hplain := Schema.isPlain_toDigits h
  rw [Schema.toList_toString]
  refine ⟨Schema.signed_ne_nil hplain _, fun hslash => ?_⟩
  rcases Schema.mem_signed hplain hslash with heq | hdigit
  · cases heq
  · cases hdigit

theorem tilePath_eq (coord : TileCoord) : tilePath coord = String.ofList
    (pathOfParts (toString coord.z).toList (toString coord.x).toList (toString coord.y).toList) := by
  have hslash : "/".toList = ['/'] := by decide
  have hfront : "/tiles/".toList = pathFront := rfl
  have hending : ".mvt".toList = tileEnding := rfl
  rw [← String.toList_inj, String.toList_ofList, tilePath, TileCoord.display]
  simp only [String.toList_append, hfront, hslash, hending, pathOfParts, List.append_assoc,
    List.cons_append, List.nil_append]

theorem readPart_toString {n : Int} (h : n.natAbs < 10 ^ Schema.numeralLimit) (name : String) :
    readPart name (toString n) = .ok n := by
  rw [readPart, Schema.integerOfText_toString h]
  rfl

/-- **A request for the path of a tile is answered for its coordinate**, unless a number in it is too
long to be read. -/
theorem isTileRequest_of_path {request : Request} {coord : TileCoord}
    (hmethod : request.method = allowedMethod) (hpath : request.target.path = tilePath coord)
    (hz : coord.z.natAbs < 10 ^ Schema.numeralLimit)
    (hx : coord.x.natAbs < 10 ^ Schema.numeralLimit)
    (hy : coord.y.natAbs < 10 ^ Schema.numeralLimit) : IsTileRequest request coord where
  method_eq := hmethod
  exists_route := by
    refine ⟨toString coord.z, toString coord.x, toString coord.y, ?_, ?_⟩
    · rw [hpath, tilePath_eq, route?_pathOfParts (isPathPart_toString hz) (isPathPart_toString hx)
        (isPathPart_toString hy)]
      simp only [String.ofList_toList]
    · rw [readCoord, readPart_toString hz, readPart_toString hx, readPart_toString hy]

end Requests

section Responses

variable {σ : Type} {tileset : Tileset} {coord : TileCoord} {app : App}

/-- Only headers are added to a response. -/
theorem exists_allowOrigin_eq (allowed : List String) (request : Request) (response : Response) :
    ∃ headers, allowOrigin allowed request response = { response with headers := headers } := by
  rw [allowOrigin]
  split
  · rw [withGrant]
    split
    · exact ⟨_, rfl⟩
    · exact ⟨_, rfl⟩
  · exact ⟨_, rfl⟩

theorem preflight?_eq_none {request : Request} (h : request.method = allowedMethod)
    (allowed : List String) : preflight? allowed request = none := by
  rw [preflight?, h]
  split
  · rename_i hmethod _ _
    exact absurd hmethod (by decide)
  · rfl

/-- A request for a tile is answered by what is read at its coordinate. -/
theorem exists_respond_eq {request : Request} (h : IsTileRequest request coord) (app : App)
    (server : Server σ) (state : σ) :
    ∃ headers, (app.respond server state request).1 =
      let reading := app.store.read server coord state
      let answer := tileResponse coord reading.outcome
      ⟨{ answer.1 with headers := headers },
        { reading.activity with records := reading.activity.records ++ answer.2 }⟩ := by
  obtain ⟨z, x, y, hroute, hcoord⟩ := h.exists_route
  have hplain : (app.respondPlain server state request).1 =
      App.behind (app.store.read server coord state).activity
        (tileResponse coord (app.store.read server coord state).outcome) := by
    rw [App.respondPlain, hroute]
    simp only [h.method_eq, if_pos, App.respondRoute, App.respondTile, hcoord]
  obtain ⟨headers, hallow⟩ := exists_allowOrigin_eq
    (app.respondPlain server state request).2.settings.allowOrigins request
    (app.respondPlain server state request).1.response
  rw [App.respond, preflight?_eq_none h.method_eq]
  simp only [hallow]
  split_ifs
  · exact ⟨headers, by rw [hplain]; rfl⟩
  · exact ⟨_, by rw [hplain]; rfl⟩

theorem failureCount_append (records more : List Log.Record) :
    failureCount (records ++ more) = failureCount records + failureCount more :=
  List.countP_append

theorem failureCount_of_isQuiet {records : List Log.Record} (h : Tile.IsQuiet records) :
    failureCount records = 0 :=
  List.countP_eq_zero.mpr fun record hrecord => by simpa using h record hrecord

/-- The reply to a request for a tile. -/
theorem isTileAnswer_respond {origin : App} (h : app.IsBehind tileset origin)
    (haccepted : tileset.IsAccepted) {server : Server σ} {state : σ} (htame : server.IsTame state)
    {request : Request} (hrequest : IsTileRequest request coord) :
    let reply := (app.respond server state request).1
    IsTileAnswer tileset coord (server.events state reply.activity.calls) reply.response
      (failureCount reply.activity.records) := by
  obtain ⟨asked, hexact⟩ := h.exists_isExact
  obtain ⟨headers, hrespond⟩ := exists_respond_eq hrequest app server state
  have hcourse := (hexact.readCourse_read server coord state).tileCourse haccepted htame
  have hanswer := isTileAnswer_tileResponse haccepted hcourse
  have hquiet := failureCount_of_isQuiet (Tile.isQuiet_read app.store server coord state)
  simp only [hrespond, failureCount_append, hquiet, Nat.zero_add]
  exact ⟨hanswer.notFound_iff, hanswer.misconfigured_iff, hanswer.unavailable_iff,
    hanswer.of_applies_nil, hanswer.of_isRendered, hanswer.eq_nil, hanswer.failures_eq⟩

end Responses

section Runs

variable {σ : Type} {tileset : Tileset} {app origin : App}

/-- The reply to a visit. -/
structure IsAnswered (tileset : Tileset) (origin : App) (visit : Visit σ) (reply : Reply σ) :
    Prop where
  isLike : ∀ request, visit.request = .ok request →
    reply.IsLike (origin.respond visit.server visit.state request).1
  isTileAnswer : ∀ request coord, visit.request = .ok request → IsTileRequest request coord →
    visit.server.IsTame visit.state →
      IsTileAnswer tileset coord (visit.server.events visit.state reply.activity.calls)
        reply.response (failureCount reply.activity.records)

theorem App.IsBehind.forall₂_serve (h : app.IsBehind tileset origin) (haccepted : tileset.IsAccepted)
    {visits : List (Visit σ)} (hvisits : ∀ visit ∈ visits, ∃ request, visit.request = .ok request) :
    List.Forall₂ (IsAnswered tileset origin) visits (app.serve visits).1 := by
  induction visits generalizing app with
  | nil => exact .nil
  | cons visit visits ih =>
      obtain ⟨⟨request, hrequest⟩, hrest⟩ := List.forall_mem_cons.mp hvisits
      obtain ⟨hlike, hbehind⟩ := h.respond visit.server visit.state request
      rw [App.serve, hrequest]
      refine .cons ⟨fun other hother => ?_, fun other coord hother htile htame => ?_⟩
        (ih hbehind hrest)
      · obtain rfl := Except.ok.inj (hrequest.symm.trans hother)
        exact hlike
      · obtain rfl := Except.ok.inj (hrequest.symm.trans hother)
        exact isTileAnswer_respond h haccepted htame htile

/-- **Requests for tiles are answered as documented, one after the other.** Of a tile of an accepted
tileset, the status says whether there is no such tile, the tileset cannot be compiled, the database
failed or the tile has no content; a failure is recorded once. The reply to a request does not depend
on what was asked before. -/
theorem isAnswered_serve (haccepted : tileset.IsAccepted) (settings : Settings) (headers : HeaderLog)
    (visits : List (Visit σ)) (hvisits : ∀ visit ∈ visits, ∃ request, visit.request = .ok request) :
    let app : App := ⟨settings, Tile.Store.ofTileset tileset, headers⟩
    List.Forall₂ (IsAnswered tileset app) visits (app.serve visits).1 :=
  (App.isBehind_fresh ⟨settings, Tile.Store.ofTileset tileset, headers⟩ tileset).forall₂_serve
    haccepted hvisits

def tileScript : Script :=
  ⟨[[.buffer [0x1a, 0x02]]], fun _ => none, false, none⟩

def visitOf (script : Script) (coord : TileCoord) : Visit Script.State :=
  ⟨Request.ofClient "testserver" "GET" (tilePath coord) none none, script.server, script.start⟩

def roadsVisits : List (Visit Script.State) :=
  [visitOf tileScript ⟨5, 3, 7⟩, visitOf timeoutScript ⟨5, 3, 8⟩, visitOf tileScript ⟨2, 0, 0⟩,
    visitOf tileScript ⟨5, 32, 7⟩]

def roadsSettings : Settings :=
  ⟨"postgresql://localhost/osm", "tileset.json", 1, 10, 10000, "http://localhost:8000", ["*"],
    "INFO"⟩

def statusesOf (tileset : Tileset) : List Nat :=
  ((App.ofTileset roadsSettings tileset).serve roadsVisits).1.map (·.response.status)

theorem readsOff_statusesOf : Tile.readsOff Tile.roadsDocument
    (fun tileset => statusesOf tileset = [200, 503, 204, 404]) = true := by
  decide +kernel

theorem isTame_tileScript : tileScript.server.IsTame tileScript.start :=
  isTame_script nofun (by simp [tileScript, IsTileRow.buffer])

theorem lt_pow_numeralLimit {n : Nat} (h : n < 10 ^ 2) : n < 10 ^ Schema.numeralLimit :=
  Nat.lt_of_lt_of_le h (Nat.pow_le_pow_right (by decide) (by decide))

theorem exists_isTileRequest_roadsVisits : ∀ visit ∈ roadsVisits, ∃ request coord,
    visit.request = .ok request ∧ IsTileRequest request coord ∧ visit.server.IsTame visit.state := by
  rw [roadsVisits]
  simp only [List.forall_mem_cons, List.not_mem_nil, false_imp_iff, implies_true, and_true]
  refine ⟨⟨_, ⟨5, 3, 7⟩, rfl, isTileRequest_of_path rfl rfl ?_ ?_ ?_, isTame_tileScript⟩,
    ⟨_, ⟨5, 3, 8⟩, rfl, isTileRequest_of_path rfl rfl ?_ ?_ ?_, isTame_timeoutScript⟩,
    ⟨_, ⟨2, 0, 0⟩, rfl, isTileRequest_of_path rfl rfl ?_ ?_ ?_, isTame_tileScript⟩,
    ⟨_, ⟨5, 32, 7⟩, rfl, isTileRequest_of_path rfl rfl ?_ ?_ ?_, isTame_tileScript⟩⟩
  all_goals exact lt_pow_numeralLimit (by decide)

/-- There is one tile, its neighbour takes too long, nothing is shown on the whole map, and the last
coordinate lies beyond the grid. -/
theorem isAnswered_serve_roadsVisits : ∃ tileset, Tileset.ofText Tile.roadsDocument = .ok tileset ∧
    tileset.IsAccepted ∧
    (∀ visit ∈ roadsVisits, ∃ request coord, visit.request = .ok request ∧
      IsTileRequest request coord ∧ visit.server.IsTame visit.state) ∧
    List.Forall₂ (IsAnswered tileset (App.ofTileset roadsSettings tileset)) roadsVisits
      ((App.ofTileset roadsSettings tileset).serve roadsVisits).1 ∧
    statusesOf tileset = [200, 503, 204, 404] := by
  obtain ⟨tileset, hdocument, hstatuses⟩ := Tile.exists_of_readsOff readsOff_statusesOf
  have haccepted : tileset.IsAccepted := .inl ⟨Tile.roadsDocument, hdocument⟩
  refine ⟨tileset, hdocument, haccepted, exists_isTileRequest_roadsVisits, ?_,
    of_decide_eq_true hstatuses⟩
  refine isAnswered_serve haccepted roadsSettings _ roadsVisits fun visit hvisit => ?_
  obtain ⟨request, -, hrequest, -⟩ := exists_isTileRequest_roadsVisits visit hvisit
  exact ⟨request, hrequest⟩

end Runs

end Service
end VectorTiles
