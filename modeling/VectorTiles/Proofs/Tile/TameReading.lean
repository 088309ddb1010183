import VectorTiles.Proofs.Database.Tameness
import VectorTiles.Proofs.Tile.StoreRun

/-!
# Readings from tame servers

What becomes of a tile of an accepted tileset when nothing goes wrong but what the driver knows of.

**Rules.** The content of a tile is what the first cell of the fetched row holds. A row that is
missing, a null and empty data are tiles without content.

**Results.**

* `TileCourse`: the five ways of such a reading. No two of them go together.
* `ReadCourse.tileCourse`: every such reading takes one of them.
-/

namespace VectorTiles
namespace Tile

open Database

section Courses

/-- The content of the tile in rows. -/
def tileContent : List Row → List UInt8
  | (.bytes content :: _) :: _ | (.buffer content :: _) :: _ => content
  | _ => []

/-- A statement is there for a coordinate, and it has layers. -/
structure IsRendered (tileset : Tileset) (coord : TileCoord) (statement : Statement) : Prop where
  isTile : coord.IsTile
  compile_eq : (compile tileset coord.z).1 = .ok statement
  layers_ne : statement.layers ≠ []

/-- Rows were fetched behind the execution of a statement. -/
def IsFetched (events : List Event) (statement : Statement) (coord : TileCoord)
    (rows : List Row) : Prop :=
  ∃ front back, events = front ++ ⟨.fetchOne, .ok rows⟩ :: back ∧
    front.map Event.call = [.takeConnection, .openCursor, executionCall statement coord]

/-- The outcome of a reading from a tame server, and its events. -/
inductive TileCourse (tileset : Tileset) (coord : TileCoord) :
    Except ReadFault (Option (List UInt8)) → List Event → Prop
  | offGrid (htile : ¬ coord.IsTile) : TileCourse tileset coord (.error (.offGrid coord)) []
  | uncompilable {layer : String} {range : ZoomRange} {cause : Sql.SourceFault}
      (htile : coord.IsTile)
      (hcompile : (compile tileset coord.z).1 = .error (.source layer range cause)) :
      TileCourse tileset coord (.error (.uncompilable (.source layer range cause))) []
  | empty {statement : Statement} (htile : coord.IsTile)
      (hcompile : (compile tileset coord.z).1 = .ok statement) (hempty : statement.layers = []) :
      TileCourse tileset coord (.ok none) []
  | interrupted {statement : Statement} {error : DriverError} {events : List Event}
      (hrendered : IsRendered tileset coord statement) (hinterrupted : IsInterrupted events)
      (hlast : lastFault? events = some (.driver error)) :
      TileCourse tileset coord (.error (.execution tileset.name coord error)) events
  | fetched {statement : Statement} {rows : List Row} {events : List Event}
      (hrendered : IsRendered tileset coord statement) (hcalm : ¬ IsInterrupted events)
      (hlast : lastFault? events = none) (hfetched : IsFetched events statement coord rows) :
      TileCourse tileset coord (.ok (nonEmpty (tileContent rows))) events

variable {σ : Type} {tileset : Tileset} {coord : TileCoord} {statement : Statement}
  {server : Server σ} {state : σ}

theorem IsRendered.eq {other : Statement} (h : IsRendered tileset coord statement)
    (hother : IsRendered tileset coord other) : statement = other :=
  Except.ok.inj (h.compile_eq.symm.trans hother.compile_eq)

theorem IsRendered.compile_ne_error (h : IsRendered tileset coord statement) (fault : CompileFault) :
    (compile tileset coord.z).1 ≠ .error fault := by
  rw [h.compile_eq]
  nofun

theorem layers_eq_nil_iff (hcompile : (compile tileset coord.z).1 = .ok statement) :
    statement.layers = [] ↔ Applies tileset coord.z [] := by
  rw [(compile_eq_ok hcompile).layers_eq, List.map_eq_nil_iff, applies_iff, eq_comm]

/-- An accepted tileset fails to compile only for a query that cannot be embedded. -/
theorem exists_mem_of_compile_eq_error (haccepted : tileset.IsAccepted) (htile : coord.IsTile)
    {fault : CompileFault} (hcompile : (compile tileset coord.z).1 = .error fault) :
    ∃ entry ∈ served tileset coord.z, ∃ cause, fault = .source entry.1.name entry.2.range cause := by
  have houtcome := isOutcome_compile haccepted.isConsistent coord.z
  rw [hcompile] at houtcome
  cases houtcome with
  | outOfRange hzoom hfault hmessage => exact absurd htile.zoom hzoom
  | @refused before after layer query cause _ hzoom hentries hbefore hcause hfault hmessage =>
      exact ⟨(layer, query), by simp [hentries], cause, hfault⟩

/-- Where no layer applies there is nothing that could fail to compile. -/
theorem exists_compile_eq_ok (haccepted : tileset.IsAccepted) (htile : coord.IsTile)
    (happlies : Applies tileset coord.z []) :
    ∃ statement, (compile tileset coord.z).1 = .ok statement ∧ statement.layers = [] := by
  cases hcompile : (compile tileset coord.z).1 with
  | ok statement => exact ⟨statement, rfl, (layers_eq_nil_iff hcompile).mpr happlies⟩
  | error fault =>
      obtain ⟨entry, hentry, -⟩ := exists_mem_of_compile_eq_error haccepted htile hcompile
      rw [← applies_iff.mp happlies] at hentry
      cases hentry

theorem IsRendered.not_applies_nil (h : IsRendered tileset coord statement) :
    ¬ Applies tileset coord.z [] :=
  fun happlies => h.layers_ne ((layers_eq_nil_iff h.compile_eq).mpr happlies)

theorem tileOfRow_of_isTileRow {row : Option Row} (h : ∀ cells, row = some cells → IsTileRow cells) :
    tileOfRow row = .ok (nonEmpty (tileContent row.toList)) := by
  cases row with
  | none => rfl
  | some cells => cases h cells rfl <;> rfl

/-- The row that a tame server returns behind the first calls is that of a tile. -/
theorem isTileRow_of_isFetched (h : server.IsTame state) {calls : List Call} {row : Row}
    (hfetched : IsFetched (server.events state calls) statement coord [row]) :
    IsTileRow row := by
  obtain ⟨front, back, hevents, hcalls⟩ := hfetched
  have hanswer := Server.answer_of_events_eq hevents
  rw [hcalls] at hanswer
  exact h.isTileRow _ (by simp [executionCall]) (by simp [executionCall]) row hanswer.symm

/-- **A tile of an accepted tileset is read from a tame server in one of five ways.** -/
theorem ReadCourse.tileCourse {calls : List Call} {outcome : Except ReadFault (Option (List UInt8))}
    (h : ReadCourse tileset coord outcome (server.events state calls))
    (haccepted : tileset.IsAccepted) (htame : server.IsTame state) :
    TileCourse tileset coord outcome (server.events state calls) := by
  generalize hevents : server.events state calls = events at h ⊢
  have hdriver : ∀ event ∈ events, ∀ text, event.answer ≠ .error (.foreign text) :=
    hevents ▸ htame.ne_foreign calls
  cases h with
  | offGrid htile => exact .offGrid htile
  | uncompilable htile hcompile =>
      obtain ⟨entry, -, cause, rfl⟩ := exists_mem_of_compile_eq_error haccepted htile hcompile
      exact .uncompilable htile hcompile
  | empty htile hcompile hempty => exact .empty htile hcompile hempty
  | @rendered statement outcome _ htile hcompile hlayers hcourse hfault =>
      have hrendered : IsRendered tileset coord statement := ⟨htile, hcompile, hlayers⟩
      have hinterrupted := hcourse.isInterrupted_iff hdriver
      -- The outcome is the fault that is left behind, which is one of the driver, or the row.
      rcases outcome with (error | text) | row
      · have hlast : lastFault? events = some (.driver error) := hfault.symm
        exact .interrupted hrendered (hinterrupted.mpr (by simp [hlast])) hlast
      · have hlast : lastFault? events = some (.foreign text) := hfault.symm
        obtain ⟨event, hevent, hfound⟩ := exists_mem_of_lastFault? hlast
        exact absurd (Event.answer_of_fault? hfound) (hdriver event hevent text)
      · have hlast : lastFault? events = none := hfault.symm
        have hwork : Course Option.toList ([executionCall statement coord] ++ [.fetchOne]) []
            (.ok row) events := hcourse
        have hfetched : IsFetched events statement coord row.toList := hwork.exists_front_of_ok
        rw [renderOutcome, tileOfRow_of_isTileRow]
        · exact .fetched hrendered (fun h => hinterrupted.mp h hlast) hlast hfetched
        · rintro cells rfl
          subst hevents
          exact isTileRow_of_isFetched htame hfetched

end Courses

end Tile
end VectorTiles
