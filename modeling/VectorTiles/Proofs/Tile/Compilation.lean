import VectorTiles.Proofs.Tile.Embedding
import VectorTiles.Tile.Statement

/-!
# Compiled statements

What a statement that was compiled is made of, said without the order in which it is compiled.

**Results.**

* `served`: the layers that appear at a zoom level, each with the query that serves it.
* `compile_eq_ok`: the parts of a statement that was compiled.
-/

namespace VectorTiles
namespace Tile

open Sql

/-- The layers that appear at a zoom level in their order, each with the query that serves it. -/
def servedLayers (layers : List Layer) (zoom : Int) : List (Layer × Query) :=
  layers.filterMap fun layer => (layer.queryAt? zoom).map (layer, ·)

/-- The served layers of a tileset; there are none at a zoom level outside of its range. -/
def served (tileset : Tileset) (zoom : Int) : List (Layer × Query) :=
  if tileset.range.covers zoom then servedLayers tileset.layers zoom else []

/-- The name of a served layer as it stands in its fragment. -/
def embeddedName (entry : Layer × Query) : List Char :=
  escapePercent (literal entry.1.name.toList)

/-- The source of a served layer as it stands in its fragment. -/
def servedSource (entry : Layer × Query) : List Char :=
  embeddedSource entry.2.sql.toList

/-- The fragment of a served layer. -/
def servedFragment (entry : Layer × Query) : List Char :=
  fragmentText (embeddedName entry) (servedSource entry) envelopePlaceholders

/-- The text of a statement with these fragments. -/
def statementText (fragments : List (List Char)) : List Char :=
  if fragments.isEmpty then "SELECT NULL::bytea AS mvtTile".toList
  else "SELECT ".toList ++ List.intercalate " || ".toList fragments ++ " AS mvtTile".toList

theorem statementText_of_ne_nil {fragments : List (List Char)} (h : fragments ≠ []) :
    statementText fragments = Statement.joined fragments :=
  if_neg (by simpa using h)

/-- What a compiled statement is made of. -/
structure IsCompiled (tileset : Tileset) (zoom : Int) (statement : Statement) : Prop where
  zoom_eq : statement.zoom = zoom
  layers_eq : statement.layers = (served tileset zoom).map (·.1.name)
  sql_eq : statement.sql.toList = statementText ((served tileset zoom).map servedFragment)
  slots_eq : statement.slots = (served tileset zoom).flatMap fun _ => fragmentSlots
  checked : ∀ entry ∈ served tileset zoom, checkSource entry.2.sql.toList = .ok ()

section Fragments

variable {layer : Layer} {query : Query} {zoom : Int} {text : List Char}

theorem queryFragment_eq_ok (h : queryFragment layer query = .ok text) :
    checkSource query.sql.toList = .ok () ∧ text = servedFragment (layer, query) := by
  rw [queryFragment] at h
  cases hcheck : checkSource query.sql.toList with
  | error fault => simp [hcheck] at h
  | ok =>
      rw [hcheck] at h
      refine ⟨rfl, ?_⟩
      simp only [quoteLiteral, quoteLiteral?] at h
      split_ifs at h
      · simp [Except.map] at h
      · exact (Except.ok.inj h).symm

/-- The fragments are those of the served layers, and every source was accepted. -/
theorem fragmentsAt_eq_ok {layers : List Layer} {fragments : List (String × List Char)}
    (h : fragmentsAt zoom layers = .ok fragments) :
    fragments = (servedLayers layers zoom).map (fun entry => (entry.1.name, servedFragment entry)) ∧
      ∀ entry ∈ servedLayers layers zoom, checkSource entry.2.sql.toList = .ok () := by
  induction layers generalizing fragments with
  | nil =>
      obtain rfl : fragments = [] := (Except.ok.inj h).symm
      exact ⟨rfl, by simp [servedLayers]⟩
  | cons layer layers ih =>
      rw [fragmentsAt, layerFragment?] at h
      cases hquery : layer.queryAt? zoom with
      | none =>
          rw [hquery] at h
          have hserved : servedLayers (layer :: layers) zoom = servedLayers layers zoom := by
            simp [servedLayers, hquery]
          rw [hserved]
          cases hrest : fragmentsAt zoom layers with
          | error fault => simp [hrest, bind, Except.bind] at h
          | ok rest =>
              obtain rfl : fragments = rest := by
                simpa [hrest, bind, Except.bind, pure, Except.pure] using h.symm
              exact ih hrest
      | some query =>
          rw [hquery] at h
          have hserved : servedLayers (layer :: layers) zoom =
              (layer, query) :: servedLayers layers zoom := by
            simp [servedLayers, hquery]
          rw [hserved]
          cases hfragment : queryFragment layer query with
          | error fault => simp [hfragment, Except.map, bind, Except.bind] at h
          | ok text =>
              obtain ⟨hcheck, rfl⟩ := queryFragment_eq_ok hfragment
              cases hrest : fragmentsAt zoom layers with
              | error fault => simp [hfragment, hrest, Except.map, bind, Except.bind] at h
              | ok rest =>
                  obtain ⟨rfl, hchecked⟩ := ih hrest
                  refine ⟨?_, by simpa [hcheck] using hchecked⟩
                  simpa [hfragment, hrest, Except.map, bind, Except.bind, pure, Except.pure]
                    using h.symm

/-- A served layer whose query and name can be embedded. -/
def IsServable (entry : Layer × Query) : Prop :=
  checkSource entry.2.sql.toList = .ok () ∧ (quoteLiteral? entry.1.name.toList).isSome = true

instance (entry : Layer × Query) : Decidable (IsServable entry) :=
  inferInstanceAs (Decidable (_ ∧ _))

theorem queryFragment_of_isServable {entry : Layer × Query} (h : IsServable entry) :
    queryFragment entry.1 entry.2 = .ok (servedFragment entry) := by
  obtain ⟨hcheck, hquote⟩ := h
  rw [queryFragment, hcheck, quoteLiteral]
  rw [quoteLiteral?] at hquote ⊢
  split_ifs at hquote ⊢
  · simp at hquote
  · rfl

theorem fragmentsAt_of_isServable {layers : List Layer}
    (h : ∀ entry ∈ servedLayers layers zoom, IsServable entry) :
    fragmentsAt zoom layers =
      .ok ((servedLayers layers zoom).map fun entry => (entry.1.name, servedFragment entry)) := by
  induction layers with
  | nil => rfl
  | cons layer layers ih =>
      rw [fragmentsAt, layerFragment?]
      cases hquery : layer.queryAt? zoom with
      | none =>
          have hserved : servedLayers (layer :: layers) zoom = servedLayers layers zoom := by
            simp [servedLayers, hquery]
          rw [hserved] at h ⊢
          rw [ih h]
          rfl
      | some query =>
          have hserved : servedLayers (layer :: layers) zoom =
              (layer, query) :: servedLayers layers zoom := by
            simp [servedLayers, hquery]
          rw [hserved] at h ⊢
          obtain ⟨hfirst, hrest⟩ := List.forall_mem_cons.mp h
          rw [ih hrest]
          simp only
          rw [queryFragment_of_isServable hfirst]
          rfl

end Fragments

section Statements

variable {tileset : Tileset} {zoom : Int} {statement : Statement}

theorem isCompiled_empty (h : served tileset zoom = []) :
    IsCompiled tileset zoom (Statement.empty zoom) where
  zoom_eq := rfl
  layers_eq := by
    rw [h]
    rfl
  sql_eq := by
    rw [h]
    rfl
  slots_eq := by
    rw [h]
    rfl
  checked := by simp [h]

theorem isCompiled_ofFragments (hne : served tileset zoom ≠ [])
    (hchecked : ∀ entry ∈ served tileset zoom, checkSource entry.2.sql.toList = .ok ()) :
    IsCompiled tileset zoom (Statement.ofFragments zoom
      ((served tileset zoom).map fun entry => (entry.1.name, servedFragment entry))) where
  zoom_eq := rfl
  layers_eq := by simp [Statement.ofFragments, Function.comp_def]
  sql_eq := by
    rw [statementText_of_ne_nil (by simpa using hne)]
    simp [Statement.ofFragments, Function.comp_def]
  slots_eq := by simp [Statement.ofFragments, List.flatMap_map]
  checked := hchecked

/-- **A statement that was compiled has the fragments of the served layers in their order.** -/
theorem compile_eq_ok (h : (compile tileset zoom).1 = .ok statement) :
    IsCompiled tileset zoom statement := by
  rw [compile] at h
  split_ifs at h with hzoom hrange
  · have hserved : served tileset zoom = [] := by simp_all [served]
    rw [← Except.ok.inj h]
    exact isCompiled_empty hserved
  · have hserved : served tileset zoom = servedLayers tileset.layers zoom := by simp_all [served]
    cases hfragments : fragmentsAt zoom tileset.layers with
    | error fault => simp [hfragments] at h
    | ok fragments =>
        obtain ⟨rfl, hchecked⟩ := fragmentsAt_eq_ok hfragments
        rw [hfragments, ← hserved] at h
        rw [← hserved] at hchecked
        cases hentries : served tileset zoom with
        | nil =>
            rw [hentries] at h
            rw [← Except.ok.inj h]
            exact isCompiled_empty hentries
        | cons entry entries =>
            have hne : served tileset zoom ≠ [] := by simp [hentries]
            have hcompiled := isCompiled_ofFragments hne hchecked
            rw [hentries] at h hcompiled
            rw [← Except.ok.inj h]
            exact hcompiled

/-- **Layers that can be embedded are compiled.** -/
theorem compile_of_isServable (hzoom : everyZoom.covers zoom = true)
    (hne : served tileset zoom ≠ []) (h : ∀ entry ∈ served tileset zoom, IsServable entry) :
    (compile tileset zoom).1 = .ok (Statement.ofFragments zoom
      ((served tileset zoom).map fun entry => (entry.1.name, servedFragment entry))) := by
  have hrange : tileset.range.covers zoom = true := by
    by_contra hrange
    exact hne (if_neg hrange)
  have hserved : served tileset zoom = servedLayers tileset.layers zoom := if_pos hrange
  rw [hserved] at h hne ⊢
  rw [compile, hzoom, hrange, fragmentsAt_of_isServable h]
  cases hentries : servedLayers tileset.layers zoom with
  | nil => exact absurd hentries hne
  | cons entry entries => rfl

/-- Names and sources that hold quotes, percent signs, and comments at their ends. -/
def annotatedTileset : Tileset :=
  ⟨"harbour", none, none, ⟨0, 20⟩, none, none,
    [⟨"it's 100%s", none, [], ⟨0, 20⟩,
        [⟨⟨4, 20⟩, " SELECT id, tags, geom FROM quay WHERE note LIKE '%)' -- (open "⟩]⟩,
      ⟨"lights", none, [], ⟨8, 20⟩, [⟨⟨8, 20⟩, "SELECT id, tags, geom FROM light"⟩]⟩,
      ⟨"$a$ --", none, [], ⟨0, 20⟩,
        [⟨⟨0, 20⟩, "SELECT id, hstore($q$;($q$, E'\\'') AS tags, geom FROM /* ) */ berth"⟩]⟩]⟩

def annotatedStatement : Statement :=
  Statement.ofFragments 5
    ((served annotatedTileset 5).map fun entry => (entry.1.name, servedFragment entry))

theorem compile_annotatedTileset : (compile annotatedTileset 5).1 = .ok annotatedStatement :=
  compile_of_isServable (by decide) (by decide) (by decide +kernel)

end Statements

end Tile
end VectorTiles
