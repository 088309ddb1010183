import VectorTiles.Proofs.Database.Wording
import VectorTiles.Proofs.Service.TileAnswers

/-!
# What clients learn of failures

Clients learn that the database failed, or that the tileset cannot be compiled. They do not learn
what the driver said, nor what is wrong with the tileset.

**Data.** Two visits are alike if they bring the same request to servers that fail at the same calls,
each in its own words.

**Results.**

* `isToldAlike_execute`, `isToldAlike_answering`: where the words of the driver end.
* `isLikeAnswer_respond`: servers that are alike make no difference to a reply, nor to later ones.
* `tileResponse_of_compile_eq_error`: every failure to compile is answered in the same words.
* `isDiscreet_serve`: both for requests one after the other.
-/

namespace VectorTiles

open Database

namespace Tile

section Readings

variable {σ : Type} {server other : Server σ}

theorem isLike_renderSession (h : server.IsLike other) (statement : Statement) (coord : TileCoord) :
    Session.IsLike Eq (renderSession server statement coord)
      (renderSession other statement coord) :=
  h.withConnection <| h.withCursor <|
    (h.call _).bind fun _ _ _ => .answered .fetchOne h.fetchOne

end Readings

end Tile

namespace Service

open Http

variable {σ : Type}

section Steps

variable {server other : Server σ}

/-- Two outcomes that clients are told of in the same way, with the same activity behind them. -/
structure IsToldAlike {α : Type} (told : α → Response × List Log.Record)
    (step second : α × Activity σ) : Prop where
  response_eq : (told step.1).1 = (told second.1).1
  activity_eq : step.2 = second.2

theorem IsToldAlike.refl {α : Type} (told : α → Response × List Log.Record)
    (step : α × Activity σ) : IsToldAlike told step step :=
  ⟨rfl, rfl⟩

/-- **Of the execution of a statement, clients are told nothing that the driver says.** -/
theorem isToldAlike_execute (h : server.IsLike other) (name : String) (statement : Tile.Statement)
    (coord : TileCoord) (activity : Activity σ) :
    IsToldAlike (tileResponse coord) (Tile.execute server name statement coord activity)
      (Tile.execute other name statement coord activity) := by
  rw [Tile.execute, Tile.execute]
  split_ifs
  · exact .refl _ _
  · obtain ⟨fault, second, behind, hfault, hone, htwo⟩ | ⟨row, _, behind, rfl, hone, htwo⟩ :=
      (Tile.isLike_renderSession h statement coord activity).eq_or
    · rw [hone, htwo]
      cases hfault <;> exact ⟨rfl, rfl⟩
    · rw [hone, htwo]
      exact .refl _ _

/-- Readings that clients are told of in the same way. The store does not see the server. -/
theorem isToldAlike_read (h : server.IsLike other) (store : Tile.Store) (coord : TileCoord)
    (state : σ) :
    let reading := store.read server coord state
    let second := store.read other coord state
    IsToldAlike (tileResponse coord) (reading.outcome, reading.activity)
        (second.outcome, second.activity) ∧ reading.store = second.store := by
  refine ⟨?_, by rw [Tile.Store.store_read, Tile.Store.store_read]⟩
  rw [Tile.Store.read, Tile.Store.read]
  cases coord.isOnGrid with
  | false => exact .refl _ _
  | true =>
      rcases store.cache.get store.tileset coord.z with ⟨fault | statement, records, cache⟩
      · exact .refl _ _
      · cases hempty : statement.isEmpty with
        | true =>
            simp only [hempty]
            exact .refl _ _
        | false =>
            simp only [hempty]
            exact isToldAlike_execute h store.tileset.name statement coord ⟨state, [], records⟩

/-- **Of a request to a header table, clients are told nothing that the driver says.** -/
theorem isToldAlike_answering {α : Type} {body second : Session σ α} (h : server.IsLike other)
    (hbody : Session.IsLike Eq body second) (state : σ)
    (answer : α → Except CellFault Replication.Answer) :
    IsToldAlike headerResponse (Replication.Table.answering server state body answer)
      (Replication.Table.answering other state second answer) := by
  have hcommitted : Session.IsLike Eq (Replication.Table.committed server body)
      (Replication.Table.committed other second) :=
    h.withConnection <| (h.withCursor hbody).bind fun result _ hsame => by
      cases hsame
      exact (h.call .commit).bind fun _ _ _ => .refl (pure result)
  rw [Replication.Table.answering, Replication.Table.answering, Session.run, Session.run]
  obtain ⟨fault, otherFault, behind, hfault, hone, htwo⟩ | ⟨result, _, behind, rfl, hone, htwo⟩ :=
    (hcommitted (Activity.start state)).eq_or
  · rw [hone, htwo]
    cases hfault <;> exact ⟨rfl, rfl⟩
  · rw [hone, htwo]
    exact .refl _ _

theorem isLike_fetchHeaders (h : server.IsLike other) (table : Replication.Table) :
    Session.IsLike Eq (table.fetchHeaders server) (table.fetchHeaders other) :=
  (h.call _).bind fun _ _ _ => .answered .fetchAll h.fetchAll

/-- What the header log is asked by requests for headers. -/
inductive IsListing : Replication.Operation → Prop
  | selectAll : IsListing .selectAll
  | selectLatest : IsListing .selectLatest

theorem isToldAlike_askHeaders (h : server.IsLike other) (app : App) (state : σ)
    {operation : Replication.Operation} (hlisting : IsListing operation) :
    IsToldAlike headerResponse (app.askHeaders server state operation)
      (app.askHeaders other state operation) := by
  rw [App.askHeaders, App.askHeaders]
  cases app.headers with
  | memory log => exact .refl _ _
  | table table =>
      cases hlisting with
      | selectAll => exact isToldAlike_answering h (isLike_fetchHeaders h table) state _
      | selectLatest => exact isToldAlike_answering h (isLike_fetchHeaders h table) state _

end Steps

section Replies

variable {server other : Server σ} {answer second : Reply σ × App}

/-- Replies that cannot be told apart, with the same service behind them. -/
structure IsLikeAnswer (answer second : Reply σ × App) : Prop where
  reply : answer.1.IsLike second.1
  app_eq : answer.2 = second.2

theorem IsLikeAnswer.refl (answer : Reply σ × App) : IsLikeAnswer answer answer :=
  ⟨.refl answer.1, rfl⟩

theorem IsToldAlike.isLike_behind {α : Type} {told : α → Response × List Log.Record}
    {step second : α × Activity σ} (h : IsToldAlike told step second) :
    (App.behind step.2 (told step.1)).IsLike (App.behind second.2 (told second.1)) :=
  ⟨h.response_eq, by rw [App.behind, App.behind, h.activity_eq]⟩

theorem isLikeAnswer_respondTile (h : server.IsLike other) (app : App) (state : σ)
    (z x y : String) :
    IsLikeAnswer (app.respondTile server state z x y) (app.respondTile other state z x y) := by
  rw [App.respondTile, App.respondTile]
  cases readCoord z x y with
  | error issues => exact .refl _
  | ok coord =>
      obtain ⟨htold, hstore⟩ := isToldAlike_read h app.store coord state
      exact ⟨htold.isLike_behind, congrArg (App.mk app.settings · app.headers) hstore⟩

theorem isLikeAnswer_respondRoute (h : server.IsLike other) (app : App) (state : σ)
    (route : Route) :
    IsLikeAnswer (app.respondRoute server state route) (app.respondRoute other state route) := by
  cases route with
  | health => exact .refl _
  | tileJson => exact .refl _
  | tile z x y => exact isLikeAnswer_respondTile h app state z x y
  | headers => exact ⟨(isToldAlike_askHeaders h app state .selectAll).isLike_behind, rfl⟩
  | latestHeader => exact ⟨(isToldAlike_askHeaders h app state .selectLatest).isLike_behind, rfl⟩

theorem isLikeAnswer_respondPlain (h : server.IsLike other) (app : App) (state : σ)
    (request : Request) :
    IsLikeAnswer (app.respondPlain server state request)
      (app.respondPlain other state request) := by
  rw [App.respondPlain, App.respondPlain]
  cases route? request.target.path with
  | some route =>
      simp only
      split_ifs
      · exact isLikeAnswer_respondRoute h app state route
      · exact .refl _
  | none => cases redirection? request.host request.target <;> exact .refl _

/-- **Servers that fail in other words make no difference to a reply**, nor to later ones. -/
theorem isLikeAnswer_respond (h : server.IsLike other) (app : App) (state : σ)
    (request : Request) :
    IsLikeAnswer (app.respond server state request) (app.respond other state request) := by
  obtain ⟨hreply, happ⟩ := isLikeAnswer_respondPlain h app state request
  rw [App.respond, App.respond]
  cases preflight? app.settings.allowOrigins request with
  | some response => exact .refl _
  | none =>
      simp only [hreply.response_eq, happ]
      split_ifs
      · exact ⟨⟨rfl, hreply.calls_eq⟩, rfl⟩
      · exact ⟨hreply, rfl⟩

end Replies

section Refusals

open Tile

variable {tileset : Tileset} {coord : TileCoord} {app origin : App}

/-- The response to a request for a tile at a zoom level where the tileset cannot be compiled. -/
def refusal (coord : TileCoord) : Response :=
  if coord.isOnGrid then Response.detail 500 "Tileset configuration error" else noTile

theorem status_refusal (htile : coord.IsTile) : (refusal coord).status = 500 := by
  rw [refusal, TileCoord.isOnGrid_iff.mpr htile]
  rfl

/-- **Of a failure to compile, clients are not told the reason.** -/
theorem tileResponse_of_compile_eq_error {outcome : Except ReadFault (Option (List UInt8))}
    {events : List Event} (h : ReadCourse tileset coord outcome events)
    (hfails : ∃ fault, (compile tileset coord.z).1 = .error fault) :
    (tileResponse coord outcome).1 = refusal coord := by
  obtain ⟨fault, hcompile⟩ := hfails
  rw [refusal]
  cases h with
  | offGrid htile => rw [if_neg (mt TileCoord.isOnGrid_iff.mp htile)]; rfl
  | @uncompilable cause htile hcause =>
      rw [if_pos (TileCoord.isOnGrid_iff.mpr htile)]
      cases cause with
      | zoomOutOfRange zoom =>
          exact absurd hcause (compile_ne_zoomOutOfRange (covers_everyZoom_iff.mpr htile.zoom) zoom)
      | unquotable name => rfl
      | source layer range cause => rfl
  | empty htile hok hempty => rw [hok] at hcompile; cases hcompile
  | rendered htile hok hlayers hcourse hfault => rw [hok] at hcompile; cases hcompile

/-- A response as it is sent to the page that asked. -/
def granted (settings : Settings) (request : Http.Request) (response : Response) : Response :=
  if App.isOrdinary response then allowOrigin settings.allowOrigins request response else response

theorem status_granted (settings : Settings) (request : Http.Request) (response : Response) :
    (granted settings request response).status = response.status := by
  obtain ⟨headers, hallow⟩ := exists_allowOrigin_eq settings.allowOrigins request response
  rw [granted, hallow]
  split_ifs <;> rfl

theorem response_respond {request : Http.Request} (app : App) (server : Server σ) (state : σ)
    (h : preflight? app.settings.allowOrigins request = none) :
    (app.respond server state request).1.response =
      granted (app.respondPlain server state request).2.settings request
        (app.respondPlain server state request).1.response := by
  rw [App.respond, h, granted]
  simp only
  split_ifs <;> rfl

/-- The response to a request for a tile, as the page that asked gets it. -/
theorem response_respond_of_isTileRequest {request : Http.Request}
    (h : IsTileRequest request coord) (app : App) (server : Server σ) (state : σ) :
    (app.respond server state request).1.response =
      granted app.settings request
        (tileResponse coord (app.store.read server coord state).outcome).1 := by
  obtain ⟨z, x, y, hroute, hcoord⟩ := h.exists_route
  have hplain : app.respondPlain server state request = app.respondTile server state z x y := by
    rw [App.respondPlain, hroute]
    simp only [h.method_eq, ↓reduceIte, App.respondRoute]
  rw [response_respond app server state (preflight?_eq_none h.method_eq _), hplain,
    App.respondTile, hcoord]
  rfl

theorem App.IsBehind.response_eq_refusal (h : app.IsBehind tileset origin) {request : Http.Request}
    (hrequest : IsTileRequest request coord) (server : Server σ) (state : σ)
    (hfails : ∃ fault, (compile tileset coord.z).1 = .error fault) :
    (app.respond server state request).1.response =
      granted origin.settings request (refusal coord) := by
  obtain ⟨asked, hexact⟩ := h.exists_isExact
  rw [response_respond_of_isTileRequest hrequest, h.settings_eq,
    tileResponse_of_compile_eq_error (hexact.readCourse_read server coord state) hfails]

end Refusals

section Runs

open Tile

/-- Two visits with the same request, to servers that say different things about their faults. -/
structure Visit.IsLike (visit other : Visit σ) : Prop where
  request_eq : visit.request = other.request
  server : visit.server.IsLike other.server
  state_eq : visit.state = other.state

/-- What services of two tilesets reply to a visit for a tile that neither can compile. -/
def IsRefusedAlike (tileset rival : Tileset) (visit : Visit σ) (reply other : Reply σ) : Prop :=
  ∀ request coord, visit.request = .ok request → IsTileRequest request coord →
    (∃ fault, (compile tileset coord.z).1 = .error fault) →
      (∃ fault, (compile rival coord.z).1 = .error fault) →
        reply.response = other.response ∧ (coord.IsTile → reply.response.status = 500)

variable {tileset rival : Tileset} {app second origin rivalOrigin : App}
  {visits others : List (Visit σ)}

theorem forall₂_isLike_serve (h : List.Forall₂ Visit.IsLike visits others) (app : App) :
    List.Forall₂ Reply.IsLike (app.serve visits).1 (app.serve others).1 := by
  induction h generalizing app with
  | nil => exact .nil
  | @cons visit other visits others hvisit _ ih =>
      obtain ⟨hrequest, hserver, hstate⟩ := hvisit
      rw [App.serve, App.serve, hrequest, hstate]
      cases other.request with
      | error fault => exact .nil
      | ok request =>
          obtain ⟨hreply, happ⟩ := isLikeAnswer_respond hserver app other.state request
          simp only [happ]
          exact .cons hreply (ih _)

/-- Two services in the course of their requests refuse the same tiles in the same way. -/
theorem App.IsBehind.forall₂_isRefusedAlike (happ : app.IsBehind tileset origin)
    (hsecond : second.IsBehind rival rivalOrigin) (hsettings : origin.settings = rivalOrigin.settings)
    (h : List.Forall₂ Visit.IsLike visits others) :
    List.Forall₂ (fun visited reply => IsRefusedAlike tileset rival visited.1 visited.2 reply)
      (visits.zip (app.serve visits).1) (second.serve others).1 := by
  induction h generalizing app second with
  | nil => exact .nil
  | @cons visit other visits others hvisit _ ih =>
      have hrequest := hvisit.request_eq
      rw [App.serve, App.serve, hrequest]
      cases hother : other.request with
      | error fault => exact .nil
      | ok request =>
          obtain ⟨-, hbehind⟩ := happ.respond visit.server visit.state request
          obtain ⟨-, hsecondBehind⟩ := hsecond.respond other.server other.state request
          refine .cons (fun asked coord hasked htile hfails hrivalFails => ?_)
            (ih hbehind hsecondBehind)
          obtain rfl : request = asked :=
            Except.ok.inj ((hrequest.trans hother).symm.trans hasked)
          have hreply := happ.response_eq_refusal htile visit.server visit.state hfails
          have hsame := hsecond.response_eq_refusal htile other.server other.state hrivalFails
          refine ⟨hreply.trans (hsettings ▸ hsame.symm), fun hgrid => ?_⟩
          exact (congrArg Response.status hreply).trans
            ((status_granted _ _ _).trans (status_refusal hgrid))

/-- **What the driver says never reaches a client.** Whatever tileset and header log a service has and
whatever it is asked, servers that fail at the same calls, each in its own words, make it reply alike.
Services of two tilesets refuse a tile in the same way if neither tileset compiles at its zoom level,
whatever the reasons. -/
theorem isDiscreet_serve (settings : Settings) (headers : HeaderLog) (tileset : Tileset)
    (h : List.Forall₂ Visit.IsLike visits others) :
    let app : App := ⟨settings, Store.ofTileset tileset, headers⟩
    List.Forall₂ Reply.IsLike (app.serve visits).1 (app.serve others).1 ∧
      ∀ rival : Tileset, List.Forall₂
        (fun visited reply => IsRefusedAlike tileset rival visited.1 visited.2 reply)
        (visits.zip (app.serve visits).1)
        ((App.mk settings (Store.ofTileset rival) headers).serve others).1 := by
  refine ⟨forall₂_isLike_serve h _, fun rival => ?_⟩
  have happ := App.isBehind_fresh ⟨settings, Store.ofTileset tileset, headers⟩ tileset
  have hrival := App.isBehind_fresh ⟨settings, Store.ofTileset rival, headers⟩ rival
  exact happ.forall₂_isRefusedAlike hrival rfl h

/-- A database that refuses every statement with a given error. -/
def refusingScript (error : DriverError) : Script :=
  ⟨[], fun point => if point = .execute then some (.driver error) else none, false, none⟩

theorem isLike_refusingScript (error other : DriverError) :
    (refusingScript error).IsLike (refusingScript other) where
  rows_eq := rfl
  faults point := by
    simp only [refusingScript]
    split_ifs
    · exact .some (.driver error other)
    · exact .none
  closed_eq := rfl
  closedOnFault_eq := rfl

/-- Visits for two tiles and for headers, all of them to such a database. -/
def refusedVisits (error : DriverError) : List (Visit Script.State) :=
  ["/tiles/4/3/7.mvt", "/tiles/5/3/7.mvt", "/api/replication/headers",
    "/api/replication/latest"].map fun path =>
      ⟨Request.ofClient "testserver" "GET" path none none, (refusingScript error).server,
        (refusingScript error).start⟩

theorem forall₂_refusedVisits (error other : DriverError) :
    List.Forall₂ Visit.IsLike (refusedVisits error) (refusedVisits other) := by
  rw [refusedVisits, refusedVisits, List.forall₂_map_left_iff, List.forall₂_map_right_iff]
  exact List.forall₂_same.mpr fun _ _ =>
    ⟨rfl, (isLike_refusingScript error other).server, (isLike_refusingScript error other).start_eq⟩

/-- A layer with a query for one zoom level, and a source for the next one. -/
def laneDocument (sql : String) : String :=
  "\x7b\"minzoom\":0,\"maxzoom\":14,\"vector_layers\":[" ++
    "\x7b\"id\":\"lanes\",\"minzoom\":4,\"maxzoom\":5,\"queries\":[" ++
      "\x7b\"minzoom\":4,\"maxzoom\":4,\"sql\":\"SELECT 1\"\x7d," ++
      "\x7b\"minzoom\":5,\"maxzoom\":5,\"sql\":\"" ++ sql ++ "\"\x7d]\x7d]\x7d"

/-- The statuses of the replies to such visits. -/
def refusedStatuses (tileset : Tileset) : List Nat :=
  ((App.ofTileset roadsSettings tileset).serve (refusedVisits ⟨"QueryCanceled", "timeout"⟩)).1.map
    (·.response.status)

theorem readsOff_terminated : readsOff (laneDocument "SELECT 1; SELECT 2") (fun tileset =>
    (compile tileset 5).1 = .error (.source "lanes" ⟨5, 5⟩ (.terminator 8)) ∧
      refusedStatuses tileset = [503, 500, 503, 503]) = true := by
  decide +kernel

theorem readsOff_unclosed : readsOff (laneDocument "SELECT (1") (fun tileset =>
    (compile tileset 5).1 = .error (.source "lanes" ⟨5, 5⟩ (.unclosed 1))) = true := by
  decide +kernel

/-- One tile cannot be had from the database, the next one not from the tileset, and neither the
headers nor the latest of them can be read. -/
theorem isDiscreet_serve_refusedVisits : ∃ tileset rival,
    Tileset.ofText (laneDocument "SELECT 1; SELECT 2") = .ok tileset ∧
    Tileset.ofText (laneDocument "SELECT (1") = .ok rival ∧
    (compile tileset 5).1 = .error (.source "lanes" ⟨5, 5⟩ (.terminator 8)) ∧
    (compile rival 5).1 = .error (.source "lanes" ⟨5, 5⟩ (.unclosed 1)) ∧
    refusedStatuses tileset = [503, 500, 503, 503] ∧
    let visits := refusedVisits ⟨"QueryCanceled", "timeout"⟩
    let others := refusedVisits ⟨"OperationalError", "no route to 10.0.0.7"⟩
    List.Forall₂ Visit.IsLike visits others ∧
    List.Forall₂ Reply.IsLike ((App.ofTileset roadsSettings tileset).serve visits).1
      ((App.ofTileset roadsSettings tileset).serve others).1 ∧
    List.Forall₂ (fun visited reply => IsRefusedAlike tileset rival visited.1 visited.2 reply)
      (visits.zip ((App.ofTileset roadsSettings tileset).serve visits).1)
      ((App.ofTileset roadsSettings rival).serve others).1 := by
  obtain ⟨tileset, hdocument, hreads⟩ := exists_of_readsOff readsOff_terminated
  obtain ⟨rival, hrivalDocument, hrivalReads⟩ := exists_of_readsOff readsOff_unclosed
  obtain ⟨hcompile, hstatuses⟩ := of_decide_eq_true hreads
  have hvisits := forall₂_refusedVisits ⟨"QueryCanceled", "timeout"⟩
    ⟨"OperationalError", "no route to 10.0.0.7"⟩
  obtain ⟨hreplies, hrefused⟩ := isDiscreet_serve roadsSettings
    (.table Replication.Table.standard) tileset hvisits
  exact ⟨tileset, rival, hdocument, hrivalDocument, hcompile, of_decide_eq_true hrivalReads,
    hstatuses, hvisits, hreplies, hrefused rival⟩

end Runs

end Service
end VectorTiles
