import VectorTiles.Proofs.Sql.Interpolation
import VectorTiles.Proofs.Tile.Compilation

/-!
# Bound statements

A statement and its parameters reach the server as one text.

**Results.**

* `boundFragment`: a fragment as the server reads it.
* `interpolate_compile`: what the server reads for a tile.
-/

namespace VectorTiles
namespace Tile

open Sql

section Fragments

variable (coord : TileCoord)

/-- The arguments of an envelope as the server reads them. -/
def envelopeArguments : List Char :=
  (toString coord.z).toList ++ ", ".toList ++ (toString coord.x).toList ++ ", ".toList ++
    (toString coord.y).toList

/-- The fragment of a served layer as the server reads it: with the literal of the name, with the
source between its blanks, behind which a line end stands if it may end in a comment, and with the
coordinate in both envelopes. -/
def boundFragment (entry : Layer × Query) : List Char :=
  "(SELECT ST_AsMVT(mvtGeom.*, ".toList ++ literal entry.1.name.toList ++
    ", 4096, 'geom', 'id') FROM (SELECT ST_AsMVTGeom(t.geom, ST_TileEnvelope(".toList ++
    envelopeArguments coord ++
    ("), 4096, 64, true) AS geom, t.tags - 'id' AS tags, t.id AS id " ++
      "FROM (SELECT * FROM (").toList ++
    endingComment (Text.strip entry.2.sql.toList) ++
    (") AS t1 (id, tags, geom) WHERE t1.geom IS NOT NULL " ++
      "AND t1.geom && ST_TileEnvelope(").toList ++
    envelopeArguments coord ++
    ", margin => (64.0/4096))) AS t) AS mvtGeom)".toList

theorem boundFragment_eq (entry : Layer × Query) : boundFragment coord entry =
    fragmentText (literal entry.1.name.toList) (endingComment (Text.strip entry.2.sql.toList))
      (envelopeArguments coord) := by
  have henvelope : beforeEnvelope =
      ", 4096, 'geom', 'id') FROM (SELECT ST_AsMVTGeom(t.geom, ST_TileEnvelope(".toList := by
    decide +kernel
  have hsource : beforeSource =
      ("), 4096, 64, true) AS geom, t.tags - 'id' AS tags, t.id AS id " ++
        "FROM (SELECT * FROM (").toList := by
    decide +kernel
  have hend : fragmentEnd = ", margin => (64.0/4096))) AS t) AS mvtGeom)".toList := by
    decide +kernel
  rw [fragmentText, henvelope, hsource, hend]
  rfl

theorem renders_envelopePlaceholders :
    Renders envelopePlaceholders (envelopeSlots.map (Slot.value coord))
      (envelopeArguments coord) := by
  have hcomma : Renders ", ".toList [] ", ".toList := Renders.of_notMem (by decide)
  exact ((((Renders.placeholder coord.z).append hcomma).append
    (Renders.placeholder coord.x)).append hcomma).append (Renders.placeholder coord.y)

/-- A fragment takes six parameters, whatever its name and its source hold. -/
theorem renders_servedFragment (entry : Layer × Query) :
    Renders (servedFragment entry) (fragmentSlots.map (Slot.value coord))
      (boundFragment coord entry) := by
  have henvelope := renders_envelopePlaceholders coord
  have hname : Renders beforeName [] beforeName := Renders.of_notMem (by decide)
  have hmiddle : Renders beforeEnvelope [] beforeEnvelope := Renders.of_notMem (by decide)
  have hsource : Renders beforeSource [] beforeSource := Renders.of_notMem (by decide)
  have hfilter : Renders beforeFilter [] beforeFilter := Renders.of_notMem (by decide)
  have hend : Renders fragmentEnd [] fragmentEnd := Renders.of_notMem (by decide)
  rw [boundFragment_eq, servedFragment, servedSource, embeddedSource_eq]
  exact (((((((hname.append (Renders.escapePercent _)).append hmiddle).append henvelope).append
    hsource).append (Renders.escapePercent _)).append hfilter).append henvelope).append hend

end Fragments

section Statements

variable {tileset : Tileset} {zoom : Int} {statement : Statement}

theorem renders_joined (coord : TileCoord) (entries : List (Layer × Query)) :
    Renders (Statement.joined (entries.map servedFragment))
      (entries.flatMap fun _ => fragmentSlots.map (Slot.value coord))
      (Statement.joined (entries.map (boundFragment coord))) :=
  (Renders.intercalate (by decide) (renders_servedFragment coord) entries).between
    (by decide) (by decide)

theorem renders_statementText (coord : TileCoord) (entries : List (Layer × Query)) :
    Renders (statementText (entries.map servedFragment))
      (entries.flatMap fun _ => fragmentSlots.map (Slot.value coord))
      (statementText (entries.map (boundFragment coord))) := by
  cases entries with
  | nil =>
      rw [List.map_nil, List.map_nil, List.flatMap_nil, statementText, if_pos (by rfl)]
      exact Renders.of_notMem (by decide)
  | cons entry entries =>
      rw [statementText_of_ne_nil (by simp), statementText_of_ne_nil (by simp)]
      exact renders_joined coord (entry :: entries)

/-- **A bound statement reaches the server as it was declared.** The driver accepts the statement
with the parameters of any coordinate, six for each layer, and the server reads every name and
every source unchanged. -/
theorem interpolate_compile (h : (compile tileset zoom).1 = .ok statement) (coord : TileCoord) :
    interpolate statement.sql.toList (statement.bind coord) =
        some (statementText ((served tileset zoom).map (boundFragment coord))) ∧
      statement.slots.length = 6 * statement.layers.length ∧
      (statement.bind coord).length = statement.slots.length := by
  have hcompiled := compile_eq_ok h
  refine ⟨?_, ?_, ?_⟩
  · rw [hcompiled.sql_eq, Statement.bind, hcompiled.slots_eq, List.map_flatMap]
    exact (renders_statementText coord (served tileset zoom)).interpolate_eq
  · rw [hcompiled.slots_eq, hcompiled.layers_eq]
    simp [fragmentSlots, envelopeSlots, List.length_flatMap, Nat.mul_comm]
  · simp [Statement.bind]

theorem interpolate_annotatedStatement :
    interpolate annotatedStatement.sql.toList (annotatedStatement.bind ⟨5, 7, -1⟩) =
        some (statementText ((served annotatedTileset 5).map (boundFragment ⟨5, 7, -1⟩))) ∧
      annotatedStatement.slots.length = 12 := by
  obtain ⟨htext, hslots, -⟩ := interpolate_compile compile_annotatedTileset ⟨5, 7, -1⟩
  exact ⟨htext, hslots.trans (by decide)⟩

end Statements

end Tile
end VectorTiles
