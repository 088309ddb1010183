import VectorTiles.Proofs.Database.Course
import VectorTiles.Proofs.Tile.Reference
import VectorTiles.Tile.Store
import Mathlib.Algebra.Group.Int.Defs

/-!
# Readings

What becomes of a tile that is read.

**Data.** The grid of a zoom level from 0 to 30 has `2 ^ z` columns and as many rows. The work of a
statement is its execution for a coordinate, and the fetching of one row.

**Rules.** The coordinate is looked at before the statement, and the statement before the database.
Only a statement with layers is executed.

**Results.**

* `TileCoord.isOnGrid_iff`: the coordinates of tiles.
* `compile_ne_zoomOutOfRange`: at a zoom level of the grid, the zoom level is not at fault.
* `ReadCourse`, `readCourse_read`: the four ways of a reading, with their outcomes and events.
* `ReadCourse.ne_error`: what is never reported about a tile.
* `isQuiet_read`: what is recorded on the way.
-/

namespace VectorTiles

section Grid

/-- A column and a row in the grid of a zoom level. -/
structure TileCoord.IsTile (coord : TileCoord) : Prop where
  zoom : 0 ≤ coord.z ∧ coord.z ≤ 30
  column : 0 ≤ coord.x ∧ coord.x < 2 ^ coord.z.toNat
  row : 0 ≤ coord.y ∧ coord.y < 2 ^ coord.z.toNat

theorem TileCoord.isOnGrid_iff {coord : TileCoord} : coord.isOnGrid = true ↔ coord.IsTile := by
  have hsize : TileCoord.gridSize coord.z = 2 ^ coord.z.toNat := rfl
  rw [TileCoord.isOnGrid, hsize]
  simp only [Bool.and_eq_true, Tile.covers_everyZoom_iff, decide_eq_true_eq]
  constructor
  · rintro ⟨hzoom, ⟨⟨hleft, hright⟩, htop⟩, hbottom⟩
    exact ⟨hzoom, ⟨hleft, hright⟩, htop, hbottom⟩
  · rintro ⟨hzoom, ⟨hleft, hright⟩, htop, hbottom⟩
    exact ⟨hzoom, ⟨⟨hleft, hright⟩, htop⟩, hbottom⟩

end Grid

namespace Tile

open Database

section Faults

variable {tileset : Tileset} {zoom : Int} {fault : CompileFault} {layers : List Layer}

theorem exists_of_layerFragment?_eq_error {layer : Layer}
    (h : layerFragment? layer zoom = .error fault) :
    ∃ query, queryFragment layer query = .error fault := by
  rw [layerFragment?] at h
  split at h
  · cases h
  · rename_i query hquery
    cases hfragment : queryFragment layer query with
    | error cause =>
        rw [hfragment] at h
        obtain rfl : cause = fault := Except.error.inj h
        exact ⟨query, hfragment⟩
    | ok text => simp [hfragment, Except.map] at h

/-- A failure to compile comes from a query that cannot be embedded. -/
theorem exists_of_fragmentsAt_eq_error (h : fragmentsAt zoom layers = .error fault) :
    ∃ layer query, queryFragment layer query = .error fault := by
  induction layers with
  | nil => cases h
  | cons layer layers ih =>
      rw [fragmentsAt] at h
      cases hfragment : layerFragment? layer zoom with
      | error cause =>
          rw [hfragment] at h
          obtain rfl : cause = fault := Except.error.inj h
          exact ⟨layer, exists_of_layerFragment?_eq_error hfragment⟩
      | ok fragment =>
          cases hrest : fragmentsAt zoom layers with
          | error cause =>
              rw [hfragment, hrest] at h
              obtain rfl : cause = fault := Except.error.inj h
              exact ih hrest
          | ok rest =>
              rw [hfragment, hrest] at h
              cases fragment <;> cases h

theorem queryFragment_ne_zoomOutOfRange {layer : Layer} {query : Query} (zoom : Int) :
    queryFragment layer query ≠ .error (.zoomOutOfRange zoom) := by
  rw [queryFragment, quoteLiteral]
  split
  · simp
  · split <;> simp [Except.map]

theorem compile_ne_zoomOutOfRange (hzoom : everyZoom.covers zoom = true) (other : Int) :
    (compile tileset zoom).1 ≠ .error (.zoomOutOfRange other) := by
  intro h
  by_cases hrange : tileset.range.covers zoom = true
  · rw [fst_compile hzoom hrange] at h
    cases hfragments : fragmentsAt zoom tileset.layers with
    | error fault =>
        rw [hfragments] at h
        obtain rfl : fault = .zoomOutOfRange other := Except.error.inj h
        obtain ⟨layer, query, hfault⟩ := exists_of_fragmentsAt_eq_error hfragments
        exact queryFragment_ne_zoomOutOfRange other hfault
    | ok fragments => simp [hfragments, Except.map] at h
  · rw [compile, hzoom, Bool.eq_false_iff.mpr hrange] at h
    cases h

end Faults

section Courses

/-- What the row of a statement, or the fault of its execution, means for the tile. -/
def renderOutcome (tileset : String) (coord : TileCoord) :
    Except Fault (Option Row) → Except ReadFault (Option (List UInt8))
  | .error fault => .error (executionFault tileset coord fault)
  | .ok row => (tileOfRow row).mapError .unreadable

/-- The execution of a statement for a coordinate. -/
def executionCall (statement : Statement) (coord : TileCoord) : Call :=
  .execute statement.sql (some ((statement.bind coord).map Param.int))

/-- The outcome of a reading and its events. -/
inductive ReadCourse (tileset : Tileset) (coord : TileCoord) :
    Except ReadFault (Option (List UInt8)) → List Event → Prop
  | offGrid (htile : ¬ coord.IsTile) : ReadCourse tileset coord (.error (.offGrid coord)) []
  | uncompilable {fault : CompileFault} (htile : coord.IsTile)
      (hcompile : (compile tileset coord.z).1 = .error fault) :
      ReadCourse tileset coord (.error (.uncompilable fault)) []
  | empty {statement : Statement} (htile : coord.IsTile)
      (hcompile : (compile tileset coord.z).1 = .ok statement) (hempty : statement.layers = []) :
      ReadCourse tileset coord (.ok none) []
  | rendered {statement : Statement} {outcome : Except Fault (Option Row)} {events : List Event}
      (htile : coord.IsTile) (hcompile : (compile tileset coord.z).1 = .ok statement)
      (hlayers : statement.layers ≠ [])
      (hcourse : Course Option.toList [executionCall statement coord, .fetchOne] [] outcome events)
      (hfault : faultOf? outcome = lastFault? events) :
      ReadCourse tileset coord (renderOutcome tileset.name coord outcome) events

variable {σ : Type} {tileset : Tileset} {statement : Statement} {coord : TileCoord} {store : Store}

/-- The session of a statement takes the course of a cursor, whatever was recorded before. -/
theorem exists_course_renderSession (server : Server σ) (statement : Statement) (coord : TileCoord)
    (state : σ) : ∃ outcome calls noted,
      Runs server state (renderSession server statement coord) outcome calls noted ∧
        Course Option.toList [executionCall statement coord, .fetchOne] [] outcome
          (server.events state calls) :=
  ((follows_execute server statement.sql _).bind (follows_fetchOne server)).exists_course state

theorem execute_of_runs {server : Server σ} {state : σ} {outcome : Except Fault (Option Row)}
    {calls : List Call} {noted : List Log.Record}
    (h : Runs server state (renderSession server statement coord) outcome calls noted)
    (hzoom : statement.zoom = coord.z) (name : String) (records : List Log.Record) :
    execute server name statement coord ⟨state, [], records⟩ =
      (renderOutcome name coord outcome, ⟨server.behind state calls, calls, records ++ noted⟩) := by
  rw [execute, if_neg (not_not_intro hzoom), h.apply_eq]
  cases outcome <;> rfl

/-- **A tile is read in one of four ways**, provided that the cache answers as compiling would. -/
theorem readCourse_read (server : Server σ) (state : σ)
    (hcache : (store.cache.get store.tileset coord.z).statement =
      (compile store.tileset coord.z).1) :
    ReadCourse store.tileset coord (store.read server coord state).outcome
      (server.events state (store.read server coord state).activity.calls) := by
  simp only [Store.read, hcache]
  by_cases htile : coord.IsTile
  · rw [TileCoord.isOnGrid_iff.mpr htile]
    cases hcompile : (compile store.tileset coord.z).1 with
    | error fault => exact .uncompilable htile hcompile
    | ok statement =>
        by_cases hempty : statement.layers = []
        · have hisEmpty : statement.isEmpty = true := List.isEmpty_iff.mpr hempty
          simp only [hisEmpty]
          exact .empty htile hcompile hempty
        · have hisEmpty : statement.isEmpty = false := List.isEmpty_eq_false_iff.mpr hempty
          obtain ⟨outcome, calls, noted, hruns, hcourse⟩ :=
            exists_course_renderSession server statement coord state
          have hzoom : statement.zoom = coord.z := (compile_eq_ok hcompile).zoom_eq
          simp only [hisEmpty, execute_of_runs hruns hzoom]
          exact .rendered htile hcompile hempty hcourse hruns.faultOf?_eq
  · rw [Bool.eq_false_iff.mpr fun hgrid => htile (TileCoord.isOnGrid_iff.mp hgrid)]
    exact .offGrid htile

/-- Neither a zoom level out of range nor a statement of another zoom level is reported. -/
theorem ReadCourse.ne_error {outcome : Except ReadFault (Option (List UInt8))} {events : List Event}
    (h : ReadCourse tileset coord outcome events) :
    (∀ zoom, outcome ≠ .error (.uncompilable (.zoomOutOfRange zoom))) ∧
      ∀ compiled asked, outcome ≠ .error (.otherZoom compiled asked) := by
  cases h with
  | offGrid htile => exact ⟨nofun, nofun⟩
  | @uncompilable fault htile hcompile =>
      refine ⟨fun zoom hout => ?_, nofun⟩
      obtain rfl : fault = .zoomOutOfRange zoom := ReadFault.uncompilable.inj (Except.error.inj hout)
      exact compile_ne_zoomOutOfRange (covers_everyZoom_iff.mpr htile.zoom) zoom hcompile
  | empty htile hcompile hempty => exact ⟨nofun, nofun⟩
  | @rendered statement outcome events htile hcompile hlayers hcourse hfault =>
      rcases outcome with (error | text) | row
      · exact ⟨nofun, nofun⟩
      · exact ⟨nofun, nofun⟩
      · rw [renderOutcome]
        cases tileOfRow row with
        | error fault => exact ⟨nofun, nofun⟩
        | ok content => exact ⟨nofun, nofun⟩

end Courses

section Records

variable {σ : Type} {coord : TileCoord}

/-- None of the records reports an error. -/
def IsQuiet (records : List Log.Record) : Prop :=
  ∀ record ∈ records, record.level ≠ .error

theorem isQuiet_compile (tileset : Tileset) (zoom : Int) : IsQuiet (compile tileset zoom).2 := by
  rw [compile]
  split_ifs
  · simp [IsQuiet]
  · simp [IsQuiet]
  · rcases fragmentsAt zoom tileset.layers with fault | _ | ⟨fragment, fragments⟩ <;> simp [IsQuiet]

theorem isQuiet_get (cache : StatementCache) (tileset : Tileset) (zoom : Int) :
    IsQuiet (cache.get tileset zoom).records := by
  have hquiet := isQuiet_compile tileset zoom
  rw [StatementCache.get]
  cases cache.get? zoom with
  | some statement => nofun
  | none =>
      rcases hcompile : compile tileset zoom with ⟨_ | _, records⟩
      · rw [hcompile] at hquiet
        exact hquiet
      · rw [hcompile] at hquiet
        exact hquiet

theorem isQuiet_execute (server : Server σ) (name : String) (statement : Statement) (state : σ)
    {records : List Log.Record} (h : IsQuiet records) :
    IsQuiet (execute server name statement coord ⟨state, [], records⟩).2.records := by
  by_cases hzoom : statement.zoom = coord.z
  · obtain ⟨outcome, calls, noted, hruns, -⟩ :=
      exists_course_renderSession server statement coord state
    rw [execute_of_runs hruns hzoom]
    refine List.forall_mem_append.mpr ⟨h, fun record hrecord => ?_⟩
    rw [hruns.eq_discardedRecord record hrecord]
    nofun
  · rw [execute, if_pos hzoom]
    exact h

/-- A reading reports no error. That is left to whoever asked for the tile. -/
theorem isQuiet_read (store : Store) (server : Server σ) (coord : TileCoord) (state : σ) :
    IsQuiet (store.read server coord state).activity.records := by
  have hquiet := isQuiet_get store.cache store.tileset coord.z
  rw [Store.read]
  cases coord.isOnGrid with
  | false => nofun
  | true =>
      rcases hget : store.cache.get store.tileset coord.z with ⟨fault | statement, records, cache⟩
      · rw [hget] at hquiet
        exact hquiet
      · rw [hget] at hquiet
        cases hempty : statement.isEmpty with
        | true => simpa [hempty] using hquiet
        | false => simpa [hempty] using isQuiet_execute server _ statement state hquiet

end Records

end Tile
end VectorTiles
