import VectorTiles.Http.Route
import VectorTiles.Tile.Coord
import Mathlib.Tactic.Common

/-!
# Paths of tiles

The path of a tile is made of its coordinate, and leads to the tile.

**Data.** The parts of such a path stand between slashes, and hold none.

**Results.**

* `route?_pathOfParts`: the route of a path with three parts.
-/

namespace VectorTiles
namespace Http

section Splitting

variable {p : Char → Bool} {xs ys : List Char} {c : Char}

theorem splitBy_of_forall (h : ∀ x ∈ xs, p x = false) : Text.splitBy p xs = [xs] := by
  induction xs with
  | nil => rfl
  | cons x xs ih =>
      obtain ⟨hx, hrest⟩ := List.forall_mem_cons.mp h
      rw [Text.splitBy, hx, ih hrest]
      rfl

theorem splitBy_append_cons (h : ∀ x ∈ xs, p x = false) (hc : p c = true) :
    Text.splitBy p (xs ++ c :: ys) = xs :: Text.splitBy p ys := by
  induction xs with
  | nil => rw [List.nil_append, Text.splitBy, if_pos hc]
  | cons x xs ih =>
      obtain ⟨hx, hrest⟩ := List.forall_mem_cons.mp h
      rw [List.cons_append, Text.splitBy, hx, ih hrest]
      rfl

end Splitting

section Parts

/-- A part of a tile path. -/
structure IsPathPart (part : List Char) : Prop where
  ne_nil : part ≠ []
  slash_notMem : '/' ∉ part

/-- The beginning of a tile path. -/
def pathFront : List Char := "/tiles/".toList

/-- The path with three parts. -/
def pathOfParts (z x y : List Char) : List Char :=
  pathFront ++ (z ++ '/' :: (x ++ '/' :: (y ++ tileEnding)))

variable {z x y : List Char}

theorem forall_ne_slash {part : List Char} (h : '/' ∉ part) : ∀ c ∈ part, (c == '/') = false := by
  intro c hc
  refine beq_eq_false_iff_ne.mpr ?_
  rintro rfl
  exact h hc

theorem segments_pathOfParts (hz : IsPathPart z) (hx : IsPathPart x) (hy : IsPathPart y) :
    segments (pathOfParts z x y) = [[], "tiles".toList, z, x, y ++ tileEnding] := by
  have hfirst : '/' ∉ "tiles".toList := by decide
  have hending : '/' ∉ tileEnding := by decide
  have hlast : '/' ∉ y ++ tileEnding := by
    rw [List.mem_append, not_or]
    exact ⟨hy.slash_notMem, hending⟩
  have hfront : segments (pathOfParts z x y) =
      [] :: Text.splitBy (· == '/')
        ("tiles".toList ++ '/' :: (z ++ '/' :: (x ++ '/' :: (y ++ tileEnding)))) := rfl
  rw [hfront, splitBy_append_cons (forall_ne_slash hfirst) rfl,
    splitBy_append_cons (forall_ne_slash hz.slash_notMem) rfl,
    splitBy_append_cons (forall_ne_slash hx.slash_notMem) rfl, splitBy_of_forall (forall_ne_slash hlast)]

theorem beforeEnding?_append (hy : IsPathPart y) : beforeEnding? (y ++ tileEnding) = some y := by
  have hlength : (y ++ tileEnding).length - tileEnding.length = y.length := by simp
  have hpos : 0 < y.length := List.length_pos_iff.mpr hy.ne_nil
  rw [beforeEnding?, hlength, List.drop_left, List.take_left, if_pos]
  exact ⟨by simpa using hpos, rfl⟩

theorem tileParts?_pathOfParts (hz : IsPathPart z) (hx : IsPathPart x) (hy : IsPathPart y) :
    tileParts? (pathOfParts z x y) =
      some (.tile (String.ofList z) (String.ofList x) (String.ofList y)) := by
  have hzx : (z.isEmpty || x.isEmpty) = false := by
    rw [List.isEmpty_eq_false_iff.mpr hz.ne_nil, List.isEmpty_eq_false_iff.mpr hx.ne_nil]
    rfl
  rw [tileParts?, segments_pathOfParts hz hx hy]
  simp [hzx, beforeEnding?_append hy]

theorem withoutLineFeed_concat {front : List Char} {last : Char} (h : last ≠ '\n') :
    withoutLineFeed (front ++ [last]) = front ++ [last] := by
  rw [withoutLineFeed, if_neg]
  simpa using h

theorem withoutLineFeed_append_tileEnding (front y : List Char) :
    withoutLineFeed (front ++ (y ++ tileEnding)) = front ++ (y ++ tileEnding) := by
  have hending : tileEnding = ['.', 'm', 'v'] ++ ['t'] := by decide
  have hpath : front ++ (y ++ tileEnding) = front ++ (y ++ ['.', 'm', 'v']) ++ ['t'] := by
    rw [hending]
    simp only [List.append_assoc]
  rw [hpath]
  exact withoutLineFeed_concat (by decide)

theorem withoutLineFeed_pathOfParts (z x y : List Char) :
    withoutLineFeed (pathOfParts z x y) = pathOfParts z x y := by
  have hpath : pathOfParts z x y =
      (pathFront ++ (z ++ '/' :: (x ++ ['/']))) ++ (y ++ tileEnding) := by
    rw [pathOfParts]
    simp only [List.append_assoc, List.cons_append, List.nil_append]
  rw [hpath]
  exact withoutLineFeed_append_tileEnding _ y

theorem ofList_pathOfParts_ne {text : String} (h : text.toList.take 7 ≠ pathFront) :
    String.ofList (pathOfParts z x y) ≠ text := by
  rintro rfl
  rw [String.toList_ofList] at h
  exact h rfl

/-- A path with three parts leads to the tile that they name. -/
theorem route?_pathOfParts (hz : IsPathPart z) (hx : IsPathPart x) (hy : IsPathPart y) :
    route? (String.ofList (pathOfParts z x y)) =
      some (.tile (String.ofList z) (String.ofList x) (String.ofList y)) := by
  rw [route?, String.toList_ofList, withoutLineFeed_pathOfParts]
  -- None of the paths without parts begins as this one does.
  split
  · exact absurd ‹_› (ofList_pathOfParts_ne (by decide))
  · exact absurd ‹_› (ofList_pathOfParts_ne (by decide))
  · exact absurd ‹_› (ofList_pathOfParts_ne (by decide))
  · exact absurd ‹_› (ofList_pathOfParts_ne (by decide))
  · exact tileParts?_pathOfParts hz hx hy

end Parts

end Http
end VectorTiles
