import VectorTiles.Proofs.Replication.CommitDiscipline
import VectorTiles.Proofs.Tile.TameReading

/-!
# Families of failures

A tile is not there, a tileset cannot be compiled, or the database fails. These are told apart, and
an error of the driver is always reported as a failure of the database.

**Rules.** The fault that a reading or a request ends with is the last one of its events that counts.

**Results.**

* `IsToldApart`, `TileCourse.isToldApart`: what is reported about a tile, and when.
* `IsWrapped`, `isWrapped_perform`: what becomes of an error of the driver in a request to a header
  table.
* `isToldApart_read_after`: both for tame servers.
-/

namespace VectorTiles

open Database

namespace Tile

/-- What is reported about a tile. -/
structure IsToldApart (tileset : Tileset) (coord : TileCoord)
    (outcome : Except ReadFault (Option (List UInt8))) (events : List Event) : Prop where
  offGrid_iff : outcome = .error (.offGrid coord) ↔ ¬ coord.IsTile
  uncompilable_iff : ∀ fault, outcome = .error (.uncompilable fault) ↔
    coord.IsTile ∧ (compile tileset coord.z).1 = .error fault
  exists_source : ∀ fault, outcome = .error (.uncompilable fault) →
    ∃ layer range cause, fault = .source layer range cause
  execution_iff : (∃ error, outcome = .error (.execution tileset.name coord error)) ↔
    IsInterrupted events
  cause_iff : ∀ error, outcome = .error (.execution tileset.name coord error) ↔
    lastFault? events = some (.driver error)
  /-- Nothing else is reported. -/
  eq_of_error : ∀ fault, outcome = .error fault → fault = .offGrid coord ∨
    (∃ cause, fault = .uncompilable cause) ∨ ∃ error, fault = .execution tileset.name coord error
  /-- The database is asked for a statement with layers only. -/
  eq_nil : (∀ statement, ¬ IsRendered tileset coord statement) → events = []
  eq_none : ∀ statement, coord.IsTile → (compile tileset coord.z).1 = .ok statement →
    statement.layers = [] → outcome = .ok none
  isFetched : ∀ statement, IsRendered tileset coord statement → ¬ IsInterrupted events →
    ∃ rows, IsFetched events statement coord rows ∧ outcome = .ok (nonEmpty (tileContent rows))

variable {tileset : Tileset} {coord : TileCoord} {outcome : Except ReadFault (Option (List UInt8))}
  {events : List Event}

theorem isToldApart_offGrid (htile : ¬ coord.IsTile) :
    IsToldApart tileset coord (.error (.offGrid coord)) [] where
  offGrid_iff := iff_of_true rfl htile
  uncompilable_iff fault := iff_of_false (by simp) fun h => htile h.1
  exists_source := by simp
  execution_iff := iff_of_false (by simp) not_isInterrupted_nil
  cause_iff error := by simp [lastFault?]
  eq_of_error fault hfault := .inl (Except.error.inj hfault).symm
  eq_nil _ := rfl
  eq_none statement h := absurd h htile
  isFetched statement h := absurd h.isTile htile

theorem isToldApart_uncompilable {layer : String} {range : ZoomRange} {cause : Sql.SourceFault}
    (htile : coord.IsTile)
    (hcompile : (compile tileset coord.z).1 = .error (.source layer range cause)) :
    IsToldApart tileset coord (.error (.uncompilable (.source layer range cause))) [] where
  offGrid_iff := by simp [htile]
  uncompilable_iff fault := by simp [htile, hcompile]
  exists_source fault hfault := by
    obtain rfl := ReadFault.uncompilable.inj (Except.error.inj hfault)
    exact ⟨layer, range, cause, rfl⟩
  execution_iff := iff_of_false (by simp) not_isInterrupted_nil
  cause_iff error := by simp [lastFault?]
  eq_of_error fault hfault := .inr (.inl ⟨_, (Except.error.inj hfault).symm⟩)
  eq_nil _ := rfl
  eq_none statement _ h := by simp [hcompile] at h
  isFetched statement h := by simpa [hcompile] using h.compile_eq

theorem isToldApart_empty {statement : Statement} (htile : coord.IsTile)
    (hcompile : (compile tileset coord.z).1 = .ok statement) (hempty : statement.layers = []) :
    IsToldApart tileset coord (.ok none) [] where
  offGrid_iff := by simp [htile]
  uncompilable_iff fault := by simp [hcompile]
  exists_source := by simp
  execution_iff := iff_of_false (by simp) not_isInterrupted_nil
  cause_iff error := by simp [lastFault?]
  eq_of_error := by simp
  eq_nil _ := rfl
  eq_none _ _ _ _ := rfl
  isFetched other h := by
    obtain rfl := Except.ok.inj (hcompile.symm.trans h.compile_eq)
    exact absurd hempty h.layers_ne

theorem isToldApart_interrupted {statement : Statement} {error : DriverError}
    (hrendered : IsRendered tileset coord statement) (hinterrupted : IsInterrupted events)
    (hlast : lastFault? events = some (.driver error)) :
    IsToldApart tileset coord (.error (.execution tileset.name coord error)) events where
  offGrid_iff := by simp [hrendered.isTile]
  uncompilable_iff fault := by simp [hrendered.compile_eq]
  exists_source := by simp
  execution_iff := iff_of_true ⟨error, rfl⟩ hinterrupted
  cause_iff other := by simp [hlast]
  eq_of_error fault hfault := .inr (.inr ⟨error, (Except.error.inj hfault).symm⟩)
  eq_nil h := absurd hrendered (h statement)
  eq_none other _ hcompile hempty := by
    obtain rfl := Except.ok.inj (hrendered.compile_eq.symm.trans hcompile)
    exact absurd hempty hrendered.layers_ne
  isFetched _ _ hcalm := absurd hinterrupted hcalm

theorem isToldApart_fetched {statement : Statement} {rows : List Row}
    (hrendered : IsRendered tileset coord statement) (hcalm : ¬ IsInterrupted events)
    (hlast : lastFault? events = none) (hfetched : IsFetched events statement coord rows) :
    IsToldApart tileset coord (.ok (nonEmpty (tileContent rows))) events where
  offGrid_iff := by simp [hrendered.isTile]
  uncompilable_iff fault := by simp [hrendered.compile_eq]
  exists_source := by simp
  execution_iff := iff_of_false (by simp) hcalm
  cause_iff other := by simp [hlast]
  eq_of_error := by simp
  eq_nil h := absurd hrendered (h statement)
  eq_none other _ hcompile hempty := by
    obtain rfl := Except.ok.inj (hrendered.compile_eq.symm.trans hcompile)
    exact absurd hempty hrendered.layers_ne
  isFetched other hother _ := by
    obtain rfl := hrendered.eq hother
    exact ⟨rows, hfetched, rfl⟩

/-- **The ways of a reading are told apart by what is reported.** -/
theorem TileCourse.isToldApart (h : TileCourse tileset coord outcome events) :
    IsToldApart tileset coord outcome events := by
  cases h with
  | offGrid htile => exact isToldApart_offGrid htile
  | uncompilable htile hcompile => exact isToldApart_uncompilable htile hcompile
  | empty htile hcompile hempty => exact isToldApart_empty htile hcompile hempty
  | interrupted hrendered hinterrupted hlast =>
      exact isToldApart_interrupted hrendered hinterrupted hlast
  | fetched hrendered hcalm hlast hfetched =>
      exact isToldApart_fetched hrendered hcalm hlast hfetched

end Tile

namespace Replication

variable {σ : Type} {server : Server σ} {state : σ} {work : List Call} {isChange : Bool}
  {events : List Event} {calls : List Call} {reply : Except LogFault Answer}

/-- An error of the driver that is left behind is reported as a failure of the log, and no other
failure of a call is reported. -/
structure IsWrapped (reply : Except LogFault Answer) (events : List Event) : Prop where
  database_iff : ∀ error, reply = .error (.database error) ↔ lastFault? events = some (.driver error)
  ne_foreign : ∀ text, reply ≠ .error (.foreign text)

theorem isWrapped_of_lastFault?_eq_none (hlast : lastFault? events = none)
    (hdatabase : ∀ error, reply ≠ .error (.database error))
    (hforeign : ∀ text, reply ≠ .error (.foreign text)) : IsWrapped reply events :=
  ⟨fun error => iff_of_false (hdatabase error) (by simp [hlast]), hforeign⟩

theorem RequestCourse.isWrapped
    (h : RequestCourse work isChange (server.events state calls) reply)
    (htame : server.IsTame state) : IsWrapped reply (server.events state calls) := by
  obtain @⟨α, rows, answer, outcome, -, hfault, herror, hok, -, -⟩ := h
  cases outcome with
  | error fault =>
      have hlast : lastFault? (server.events state calls) = some fault := hfault.symm
      obtain ⟨error, rfl⟩ := htame.exists_driver hlast
      obtain rfl := herror _ rfl
      exact ⟨fun other => by simp [Table.logFault, hlast], by simp [Table.logFault]⟩
  | ok result =>
      have hlast : lastFault? (server.events state calls) = none := hfault.symm
      obtain rfl := hok result rfl
      cases hanswer : answer result with
      | error cause => exact isWrapped_of_lastFault?_eq_none hlast nofun nofun
      | ok found => exact isWrapped_of_lastFault?_eq_none hlast nofun nofun

theorem isWrapped_perform (table : Table) (htame : server.IsTame state) (operation : Operation) :
    IsWrapped (table.perform server state operation).1
      (server.events state (table.perform server state operation).2.calls) := by
  have hperform := requestCourse_perform table server state operation
  cases hwork : table.work? operation with
  | none =>
      rw [hwork] at hperform
      obtain ⟨hcalls, hfaults⟩ := hperform
      rw [hcalls]
      refine isWrapped_of_lastFault?_eq_none rfl (fun error hreply => ?_) fun text hreply => ?_
      · obtain ⟨cause, hcause⟩ := hfaults _ hreply
        cases hcause
      · obtain ⟨cause, hcause⟩ := hfaults _ hreply
        cases hcause
  | some work =>
      rw [hwork] at hperform
      exact hperform.isWrapped htame

end Replication

namespace Service

variable {σ : Type} {tileset : Tileset} {server : Server σ} {state : σ}

/-- **The families of failures stay distinct.** Whatever an accepted tileset was asked before, what is
reported about a tile tells whether there is no such tile, the tileset cannot be compiled, or the
database fails. An error of the driver that leaves a connection is reported by a tile and by a header
table as a failure of their own, with this error as its cause. -/
theorem isToldApart_and_isWrapped (haccepted : tileset.IsAccepted) (htame : server.IsTame state)
    (steps : List (Tile.Step σ)) (coord : TileCoord) :
    let reading := ((Tile.Store.ofTileset tileset).after steps).read server coord state
    Tile.IsToldApart tileset coord reading.outcome (server.events state reading.activity.calls) ∧
      ∀ (table : Replication.Table) (operation : Replication.Operation),
        Replication.IsWrapped (table.perform server state operation).1
          (server.events state (table.perform server state operation).2.calls) := by
  refine ⟨?_, fun table operation => Replication.isWrapped_perform table htame operation⟩
  have hexact := (Tile.Store.isExact_ofTileset tileset).after steps
  exact ((hexact.readCourse_read server coord state).tileCourse haccepted htame).isToldApart

/-- A tile after its neighbour, from a database that stops every statement. -/
def lateReading (tileset : Tileset) : Tile.Store.Reading Script.State :=
  ((Tile.Store.ofTileset tileset).after
    [⟨.read ⟨5, 3, 7⟩, timeoutScript.server, timeoutScript.start⟩]).read
    timeoutScript.server ⟨5, 3, 8⟩ timeoutScript.start

theorem readsOff_lateReading : Tile.readsOff Tile.roadsDocument (fun tileset =>
    (lateReading tileset).outcome = .error (.execution tileset.name ⟨5, 3, 8⟩
      ⟨"QueryCanceled", "statement timeout"⟩)) = true := by
  decide +kernel

theorem isToldApart_lateReading : ∃ tileset, Tileset.ofText Tile.roadsDocument = .ok tileset ∧
    tileset.IsAccepted ∧ timeoutScript.server.IsTame timeoutScript.start ∧
    (lateReading tileset).outcome = .error (.execution tileset.name ⟨5, 3, 8⟩
      ⟨"QueryCanceled", "statement timeout"⟩) ∧
    Tile.IsToldApart tileset ⟨5, 3, 8⟩ (lateReading tileset).outcome
      (timeoutScript.server.events timeoutScript.start (lateReading tileset).activity.calls) ∧
    ∀ operation, Replication.IsWrapped
      (Replication.Table.standard.perform timeoutScript.server timeoutScript.start operation).1
      (timeoutScript.server.events timeoutScript.start
        (Replication.Table.standard.perform timeoutScript.server timeoutScript.start
          operation).2.calls) := by
  obtain ⟨tileset, hdocument, houtcome⟩ := Tile.exists_of_readsOff readsOff_lateReading
  have haccepted : tileset.IsAccepted := .inl ⟨Tile.roadsDocument, hdocument⟩
  obtain ⟨htile, htable⟩ := isToldApart_and_isWrapped haccepted isTame_timeoutScript
    [⟨.read ⟨5, 3, 7⟩, timeoutScript.server, timeoutScript.start⟩] ⟨5, 3, 8⟩
  exact ⟨tileset, hdocument, haccepted, isTame_timeoutScript, of_decide_eq_true houtcome, htile,
    htable Replication.Table.standard⟩

end Service
end VectorTiles
