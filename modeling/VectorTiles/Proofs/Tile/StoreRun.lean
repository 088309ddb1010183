import VectorTiles.Proofs.Tile.Reading

/-!
# Runs of a store

A store is asked for one tile after the other, and keeps what it has compiled. Nothing of this is to
be noticed but that less is compiled.

**Data.** A step asks a store for a tile, or to execute a statement that was compiled elsewhere; there
is a connection for each step.

**Rules.** Only a tile whose coordinate lies on the grid asks for the statement of its zoom level. A
statement is kept if it was asked for and the tileset compiles there, whatever becomes of the tile.

**Results.**

* `StatementCache.IsExact`: a cache that keeps what was asked for, and nothing else.
* `Store.IsExact.ask`, `Store.IsExact.after`: a step and a run keep a cache exact.
* `isTransparent_readings`: every step of a run is answered as if it were the first one.
-/

namespace VectorTiles
namespace Tile

open Database

section Caches

/-- What is kept are the statements of the zoom levels that were asked for, once each. -/
structure StatementCache.IsExact (cache : StatementCache) (tileset : Tileset) (asked : Int → Prop) :
    Prop where
  nodup : (cache.entries.map Prod.fst).Nodup
  mem_iff : ∀ zoom statement, (zoom, statement) ∈ cache.entries ↔
    asked zoom ∧ (compile tileset zoom).1 = .ok statement
  zoom_eq : ∀ entry ∈ cache.entries, entry.2.zoom = entry.1

namespace StatementCache

variable {cache : StatementCache} {tileset : Tileset} {zoom : Int} {statement : Statement}
  {asked : Int → Prop}

theorem isExact_empty (tileset : Tileset) : empty.IsExact tileset fun _ => False where
  nodup := List.nodup_nil
  mem_iff zoom statement := by simp [empty]
  zoom_eq := by simp [empty]

theorem mem_entries_of_get? (h : cache.get? zoom = some statement) :
    (zoom, statement) ∈ cache.entries := by
  obtain ⟨before, after, hentries, -⟩ := List.lookup_eq_some_iff.mp h
  rw [hentries]
  exact List.mem_append_right _ List.mem_cons_self

theorem notMem_keys_of_get? (h : cache.get? zoom = none) : zoom ∉ cache.entries.map Prod.fst := by
  intro hmem
  obtain ⟨entry, hentry, rfl⟩ := List.mem_map.mp hmem
  simpa using List.lookup_eq_none_iff.mp h entry hentry

/-- What a cache answers is what compiling gives. -/
theorem IsExact.statement_get (h : cache.IsExact tileset asked) (zoom : Int) :
    (cache.get tileset zoom).statement = (compile tileset zoom).1 := by
  rw [get]
  cases hkept : cache.get? zoom with
  | some statement => exact ((h.mem_iff zoom statement).mp (mem_entries_of_get? hkept)).2.symm
  | none => rcases compile tileset zoom with ⟨_ | _, records⟩ <;> rfl

/-- Nothing is to be added for a zoom level that is kept already, or that does not compile. -/
theorem IsExact.of_settled (h : cache.IsExact tileset asked)
    (hsettled : ∀ statement, (compile tileset zoom).1 = .ok statement → asked zoom) :
    cache.IsExact tileset fun other => asked other ∨ other = zoom where
  nodup := h.nodup
  mem_iff other statement := by
    rw [h.mem_iff]
    constructor
    · rintro ⟨hasked, hcompile⟩
      exact ⟨.inl hasked, hcompile⟩
    · rintro ⟨hasked | rfl, hcompile⟩
      · exact ⟨hasked, hcompile⟩
      · exact ⟨hsettled statement hcompile, hcompile⟩
  zoom_eq := h.zoom_eq

theorem IsExact.cons (h : cache.IsExact tileset asked)
    (hnew : zoom ∉ cache.entries.map Prod.fst)
    (hcompile : (compile tileset zoom).1 = .ok statement) :
    (StatementCache.mk ((zoom, statement) :: cache.entries)).IsExact tileset
      fun other => asked other ∨ other = zoom where
  nodup := List.nodup_cons.mpr ⟨hnew, h.nodup⟩
  mem_iff other found := by
    rw [List.mem_cons, h.mem_iff, Prod.mk.injEq]
    constructor
    · rintro (⟨rfl, rfl⟩ | ⟨hasked, hfound⟩)
      · exact ⟨.inr rfl, hcompile⟩
      · exact ⟨.inl hasked, hfound⟩
    · rintro ⟨hasked | rfl, hfound⟩
      · exact .inr ⟨hasked, hfound⟩
      · exact .inl ⟨rfl, Except.ok.inj (hfound.symm.trans hcompile)⟩
  zoom_eq := List.forall_mem_cons.mpr ⟨(compile_eq_ok hcompile).zoom_eq, h.zoom_eq⟩

/-- Asking keeps a cache exact. -/
theorem IsExact.get (h : cache.IsExact tileset asked) (zoom : Int) :
    (cache.get tileset zoom).cache.IsExact tileset fun other => asked other ∨ other = zoom := by
  rw [StatementCache.get]
  cases hkept : cache.get? zoom with
  | some statement =>
      -- What is kept was asked for before, so it is not asked for anew.
      have hasked : asked zoom := ((h.mem_iff zoom statement).mp (mem_entries_of_get? hkept)).1
      exact h.of_settled fun _ _ => hasked
  | none =>
      rcases hcompile : compile tileset zoom with ⟨fault | statement, records⟩
      · refine h.of_settled fun statement hok => ?_
        rw [hcompile] at hok
        cases hok
      · exact h.cons (notMem_keys_of_get? hkept) (congrArg Prod.fst hcompile)

end StatementCache

end Caches

section Steps

/-- What a store is asked. -/
inductive Request where
  | read (coord : TileCoord)
  | execute (statement : Statement) (coord : TileCoord)

/-- A request with the connection that is there for it. -/
structure Step (σ : Type) where
  request : Request
  server : Server σ
  state : σ

variable {σ : Type}

/-- A step asks for the statement of a zoom level. -/
def Step.Reads (step : Step σ) (zoom : Int) : Prop :=
  ∃ coord, step.request = .read coord ∧ coord.IsTile ∧ coord.z = zoom

namespace Store

/-- What a store answers in a step. -/
def ask (store : Store) (step : Step σ) : Reading σ :=
  match step.request with
  | .read coord => store.read step.server coord step.state
  | .execute statement coord => store.executeForeign step.server statement coord step.state

/-- The store behind steps. -/
def after (store : Store) (steps : List (Step σ)) : Store :=
  steps.foldl (fun store step => (store.ask step).store) store

/-- What a store answers in the course of steps. -/
def readings (store : Store) : List (Step σ) → List (Reading σ)
  | [] => []
  | step :: steps => store.ask step :: (store.ask step).store.readings steps

/-- Two readings that cannot be told apart by their outcomes, nor by the database. -/
structure Reading.IsLike (reading other : Reading σ) : Prop where
  outcome_eq : reading.outcome = other.outcome
  calls_eq : reading.activity.calls = other.activity.calls
  server_eq : reading.activity.server = other.activity.server

/-- A store of a tileset with an exact cache. -/
structure IsExact (store : Store) (tileset : Tileset) (asked : Int → Prop) : Prop where
  tileset_eq : store.tileset = tileset
  cache : store.cache.IsExact tileset asked

variable {store : Store} {tileset : Tileset} {asked : Int → Prop} {coord : TileCoord}

theorem isExact_ofTileset (tileset : Tileset) : (ofTileset tileset).IsExact tileset fun _ => False :=
  ⟨rfl, StatementCache.isExact_empty tileset⟩

/-- A reading leaves the store with the cache that was asked for the statement, if one was. -/
theorem store_read (server : Server σ) (state : σ) : (store.read server coord state).store =
    if coord.isOnGrid then ⟨store.tileset, (store.cache.get store.tileset coord.z).cache⟩
    else store := by
  rw [read]
  cases coord.isOnGrid with
  | false => rfl
  | true =>
      rcases store.cache.get store.tileset coord.z with ⟨fault | statement, records, cache⟩
      · rfl
      · cases hempty : statement.isEmpty <;> simp [hempty]

/-- A tile that is read asks for the statement of its zoom level. -/
theorem IsExact.read (h : store.IsExact tileset asked) (server : Server σ) (state : σ) :
    (store.read server coord state).store.IsExact tileset
      fun zoom => asked zoom ∨ coord.IsTile ∧ coord.z = zoom := by
  obtain ⟨rfl, hcache⟩ := h
  rw [store_read]
  split_ifs with hgrid
  · have htile : coord.IsTile := TileCoord.isOnGrid_iff.mp hgrid
    refine ⟨rfl, ?_⟩
    simpa only [htile, true_and, eq_comm] using hcache.get coord.z
  · have htile : ¬ coord.IsTile := fun htile => hgrid (TileCoord.isOnGrid_iff.mpr htile)
    refine ⟨rfl, ?_⟩
    simpa only [htile, false_and, or_false] using hcache

/-- **A step keeps the cache exact**, whatever becomes of it. -/
theorem IsExact.ask (h : store.IsExact tileset asked) (step : Step σ) :
    (store.ask step).store.IsExact tileset fun zoom => asked zoom ∨ step.Reads zoom := by
  rcases step with ⟨coord | ⟨statement, coord⟩, server, state⟩
  · have hreads (zoom : Int) : Step.Reads ⟨.read coord, server, state⟩ zoom ↔
        coord.IsTile ∧ coord.z = zoom := by simp [Step.Reads]
    simp only [hreads]
    exact h.read server state
  · have hreads (zoom : Int) : ¬ Step.Reads ⟨.execute statement coord, server, state⟩ zoom := nofun
    simp only [hreads, or_false]
    exact h

/-- The cache behind a run keeps what its steps asked for. -/
theorem IsExact.after (h : store.IsExact tileset asked) (steps : List (Step σ)) :
    (store.after steps).IsExact tileset
      fun zoom => asked zoom ∨ ∃ step ∈ steps, step.Reads zoom := by
  induction steps generalizing store asked with
  | nil => simpa [Store.after] using h
  | cons step steps ih =>
      have hrest : (store.after (step :: steps)).IsExact tileset _ := ih (h.ask step)
      simpa [or_assoc] using hrest

/-- A reading is like that of a store which was not asked for anything before. -/
theorem IsExact.isLike_read (h : store.IsExact tileset asked) (server : Server σ)
    (coord : TileCoord) (state : σ) :
    (store.read server coord state).IsLike ((ofTileset tileset).read server coord state) := by
  obtain ⟨rfl, hcache⟩ := h
  have hfresh := (StatementCache.isExact_empty store.tileset).statement_get coord.z
  simp only [Store.read, ofTileset, hcache.statement_get, hfresh]
  cases coord.isOnGrid with
  | false => exact ⟨rfl, rfl, rfl⟩
  | true =>
      cases hcompile : (compile store.tileset coord.z).1 with
      | error fault => exact ⟨rfl, rfl, rfl⟩
      | ok statement =>
          cases hempty : statement.isEmpty with
          | true =>
              simp only [hempty]
              exact ⟨rfl, rfl, rfl⟩
          | false =>
              obtain ⟨outcome, calls, noted, hruns, -⟩ :=
                exists_course_renderSession server statement coord state
              have hzoom : statement.zoom = coord.z := (compile_eq_ok hcompile).zoom_eq
              simp only [hempty, execute_of_runs hruns hzoom]
              exact ⟨rfl, rfl, rfl⟩

theorem IsExact.readCourse_read (h : store.IsExact tileset asked) (server : Server σ)
    (coord : TileCoord) (state : σ) :
    ReadCourse tileset coord (store.read server coord state).outcome
      (server.events state (store.read server coord state).activity.calls) := by
  obtain ⟨rfl, hcache⟩ := h
  exact Tile.readCourse_read server state (hcache.statement_get coord.z)

end Store

end Steps

section Runs

variable {σ : Type}

/-- A step is answered as if it were the first one, and a tile is never refused for its zoom level
alone. -/
structure IsTransparent (tileset : Tileset) (step : Step σ) (reading : Store.Reading σ) : Prop where
  isLike : reading.IsLike ((Store.ofTileset tileset).ask step)
  ne_error : ∀ coord, step.request = .read coord →
    (∀ zoom, reading.outcome ≠ .error (.uncompilable (.zoomOutOfRange zoom))) ∧
      ∀ compiled asked, reading.outcome ≠ .error (.otherZoom compiled asked)

variable {store : Store} {tileset : Tileset} {asked : Int → Prop}

theorem isTransparent_ask (h : store.IsExact tileset asked) (step : Step σ) :
    IsTransparent tileset step (store.ask step) := by
  rcases step with ⟨coord | ⟨statement, coord⟩, server, state⟩
  · refine ⟨h.isLike_read server coord state, fun _ _ => ?_⟩
    exact (h.readCourse_read server coord state).ne_error
  · obtain ⟨rfl, -⟩ := h
    exact ⟨⟨rfl, rfl, rfl⟩, nofun⟩

theorem forall₂_isTransparent (h : store.IsExact tileset asked) (steps : List (Step σ)) :
    List.Forall₂ (IsTransparent tileset) steps (store.readings steps) := by
  induction steps generalizing store asked with
  | nil => exact .nil
  | cons step steps ih => exact .cons (isTransparent_ask h step) (ih (h.ask step))

/-- **A run is answered as if each of its steps were the first one.** At every point of it, what is
kept are the statements of the zoom levels that were asked for until then, as far as the tileset
compiles there. -/
theorem isTransparent_readings (tileset : Tileset) (steps : List (Step σ)) :
    List.Forall₂ (IsTransparent tileset) steps ((Store.ofTileset tileset).readings steps) ∧
      ∀ n, ((Store.ofTileset tileset).after (steps.take n)).cache.IsExact tileset
        fun zoom => ∃ step ∈ steps.take n, step.Reads zoom := by
  refine ⟨forall₂_isTransparent (Store.isExact_ofTileset tileset) steps, fun n => ?_⟩
  simpa only [false_or] using ((Store.isExact_ofTileset tileset).after (steps.take n)).cache

end Runs

end Tile
end VectorTiles
