import VectorTiles.Proofs.Schema.Checked
import VectorTiles.Tileset.Document
import Mathlib.Data.List.TakeWhile

/-!
# Accepted tilesets

A document is accepted if it describes a tileset.

**Results.**

* `toZoom_eq_ok`, `checkName_eq_ok`, `firstRepeated?_eq_none_iff`: the tests of single members.
* `Tileset.IsAccepted.isConsistent`: the ranges and the names of a tileset that was accepted.
-/

namespace VectorTiles

open Partiality Schema

section Members

variable {value : Json} {zoom : Int} {range : ZoomRange} {owner name result : String}

theorem toZoom_eq_ok :
    toZoom value = .ok zoom ↔ toInteger value = .ok zoom ∧ lowestZoom ≤ zoom ∧ zoom ≤ highestZoom := by
  rw [toZoom]
  constructor
  · intro h
    obtain ⟨n, hinteger, h⟩ := bind_eq_ok.mp h
    obtain ⟨m, hlow, h⟩ := bind_eq_ok.mp h
    obtain ⟨hbelow, rfl⟩ := atLeast_eq_ok.mp hlow
    obtain ⟨habove, rfl⟩ := atMost_eq_ok.mp h
    exact ⟨hinteger, hbelow, habove⟩
  · rintro ⟨hinteger, hlow, hhigh⟩
    exact bind_eq_ok.mpr ⟨zoom, hinteger,
      bind_eq_ok.mpr ⟨zoom, atLeast_eq_ok.mpr ⟨hlow, rfl⟩, atMost_eq_ok.mpr ⟨hhigh, rfl⟩⟩⟩

theorem check_eq_ok {done : Unit} : range.check owner = .ok done ↔ range.min ≤ range.max := by
  rw [ZoomRange.check]
  split_ifs with h
  · constructor
    · intro hreject
      exact absurd hreject reject_ne_ok
    · intro hle
      omega
  · constructor
    · intro _
      omega
    · intro _
      rfl

/-- A text is stripped to nothing if all of its characters are blank. -/
theorem strip_eq_nil_iff {cs : List Char} : Text.strip cs = [] ↔ Text.IsBlankText cs := by
  rw [Text.strip, Text.trimBoth, List.reverse_eq_nil_iff, List.dropWhile_eq_nil_iff, Text.IsBlankText]
  constructor
  · intro h
    refine List.dropWhile_eq_nil_iff.mp ?_
    -- What is left begins with a character that is not blank, unless nothing is left.
    cases hleft : cs.dropWhile Text.isBlank with
    | nil => rfl
    | cons c rest =>
        have hblank : Text.isBlank c = true := h c (by simp [hleft])
        have hfirst := List.head_dropWhile_not Text.isBlank (l := cs) (by simp [hleft])
        simp only [hleft, List.head_cons] at hfirst
        rw [hblank] at hfirst
        cases hfirst
  · intro h
    rw [List.dropWhile_eq_nil_iff.mpr h]
    intro x hx
    cases hx

theorem checkName_eq_ok : Layer.checkName name = .ok result ↔ IsLayerName name ∧ name = result := by
  have hblank : (Text.strip name.toList).isEmpty = true ↔ Text.IsBlankText name.toList := by
    rw [List.isEmpty_iff, strip_eq_nil_iff]
  rw [Layer.checkName, IsLayerName]
  split_ifs with hempty hnull
  · constructor
    · intro hreject
      exact absurd hreject reject_ne_ok
    · rintro ⟨⟨hname, -⟩, -⟩
      exact absurd (hblank.mp hempty) hname
  · constructor
    · intro hreject
      exact absurd hreject reject_ne_ok
    · rintro ⟨⟨-, hname⟩, -⟩
      exact absurd (List.contains_iff_mem.mp hnull) hname
  · constructor
    · intro hok
      refine ⟨⟨?_, ?_⟩, Except.ok.inj hok⟩
      · intro h
        exact hempty (hblank.mpr h)
      · intro h
        exact hnull (List.contains_iff_mem.mpr h)
    · rintro ⟨-, rfl⟩
      rfl

theorem firstRepeated?_eq_none_iff {seen names : List String} :
    firstRepeated? seen names = none ↔ names.Nodup ∧ ∀ name ∈ names, name ∉ seen := by
  induction names generalizing seen with
  | nil => simp [firstRepeated?]
  | cons name names ih =>
      rw [firstRepeated?]
      split_ifs with hseen
      · constructor
        · intro h
          cases h
        · rintro ⟨-, hnew⟩
          exact absurd (List.contains_iff_mem.mp hseen) (hnew name List.mem_cons_self)
      · have hnew : name ∉ seen := fun h => hseen (List.contains_iff_mem.mpr h)
        rw [ih, List.nodup_cons, List.forall_mem_cons]
        constructor
        · rintro ⟨hnodup, hothers⟩
          refine ⟨⟨?_, hnodup⟩, hnew, fun other hother h => ?_⟩
          · intro hmem
            exact hothers name hmem List.mem_cons_self
          · exact hothers other hother (List.mem_cons_of_mem _ h)
        · rintro ⟨⟨hfirst, hnodup⟩, -, hothers⟩
          refine ⟨hnodup, fun other hother h => ?_⟩
          rcases List.mem_cons.mp h with rfl | h
          · exact hfirst hother
          · exact hothers other hother h

end Members

section Records

variable {value : Json} {query : Query} {layer : Layer} {tileset : Tileset}

theorem exists_of_mem_toItems {α : Type} {convert : Json → Checked α} {values : List α}
    (h : toItems convert value = .ok values) {a : α} (ha : a ∈ values) :
    ∃ item, convert item = .ok a := by
  obtain ⟨items, -, hitems⟩ := toItems_eq_ok.mp h
  clear h
  induction hitems with
  | nil => cases ha
  | cons hitem hrest ih =>
      rcases List.mem_cons.mp ha with rfl | ha
      · exact ⟨_, hitem⟩
      · exact ih ha

/-- The items of a member that may be left out. -/
theorem exists_of_mem_optional {α : Type} {convert : Json → Checked α} {values : List α}
    {members : List (String × Json)} {names : List String}
    (h : optional members names [] (toItems convert) = .ok values) {a : α} (ha : a ∈ values) :
    ∃ item, convert item = .ok a := by
  have hmember := optional_eq_ok.mp h
  split at hmember
  · exact exists_of_mem_toItems hmember ha
  · subst hmember
    cases ha

theorem isProper_of_required {members : List (String × Json)} {low high : Int}
    (hlow : required members "minzoom" [] toZoom = .ok low)
    (hhigh : required members "maxzoom" [] toZoom = .ok high)
    (h : low ≤ high) : (⟨low, high⟩ : ZoomRange).IsProper := by
  obtain ⟨_, _, _, hlow⟩ := required_eq_ok.mp hlow
  obtain ⟨_, _, _, hhigh⟩ := required_eq_ok.mp hhigh
  exact ⟨(toZoom_eq_ok.mp hlow).2.1, h, (toZoom_eq_ok.mp hhigh).2.2⟩

theorem Query.isProper_of_ofJson (h : Query.ofJson value = .ok query) : query.range.IsProper := by
  obtain ⟨members, -, h⟩ := bind_eq_ok.mp h
  obtain ⟨built, hbuilt, h⟩ := bind_eq_ok.mp h
  obtain ⟨done, hcheck, h⟩ := bind_eq_ok.mp h
  obtain rfl := Except.ok.inj h
  simp only [apply_eq_ok, build_eq_ok] at hbuilt
  obtain ⟨_, sql, ⟨_, high, ⟨_, low, rfl, hlow, rfl⟩, hhigh, rfl⟩, -, rfl⟩ := hbuilt
  exact isProper_of_required hlow hhigh (check_eq_ok.mp hcheck)

theorem Layer.isConsistent_of_ofJson (h : Layer.ofJson value = .ok layer) : layer.IsConsistent := by
  obtain ⟨members, -, h⟩ := bind_eq_ok.mp h
  obtain ⟨built, hbuilt, h⟩ := bind_eq_ok.mp h
  obtain ⟨done, hcheck, h⟩ := bind_eq_ok.mp h
  obtain rfl := Except.ok.inj h
  simp only [apply_eq_ok, build_eq_ok] at hbuilt
  obtain ⟨_, queries, ⟨_, high, ⟨_, low, ⟨_, properties, ⟨_, description, ⟨_, name, rfl, hname, rfl⟩,
    -, rfl⟩, -, rfl⟩, hlow, rfl⟩, hhigh, rfl⟩, hqueries, rfl⟩ := hbuilt
  refine ⟨?_, isProper_of_required hlow hhigh (check_eq_ok.mp hcheck), ?_⟩
  · obtain ⟨_, member, -, hname⟩ := required_eq_ok.mp hname
    obtain ⟨text, -, hname⟩ := bind_eq_ok.mp hname
    obtain ⟨husable, rfl⟩ := checkName_eq_ok.mp hname
    exact husable
  · intro query hquery
    obtain ⟨item, hitem⟩ := exists_of_mem_optional hqueries hquery
    exact Query.isProper_of_ofJson hitem

theorem Tileset.isConsistent_of_ofJson (h : Tileset.ofJson value = .ok tileset) :
    tileset.IsConsistent := by
  obtain ⟨members, -, h⟩ := bind_eq_ok.mp h
  obtain ⟨built, hbuilt, h⟩ := bind_eq_ok.mp h
  obtain ⟨done, hcheck, h⟩ := bind_eq_ok.mp h
  obtain ⟨named, hnames, h⟩ := bind_eq_ok.mp h
  obtain rfl := Except.ok.inj h
  have hnodup : (built.layers.map (·.name)).Nodup := by
    rw [Tileset.checkNames] at hnames
    cases hrepeated : firstRepeated? [] (built.layers.map (·.name)) with
    | none => exact (firstRepeated?_eq_none_iff.mp hrepeated).1
    | some name =>
        rw [hrepeated] at hnames
        exact absurd hnames reject_ne_ok
  simp only [apply_eq_ok, build_eq_ok] at hbuilt
  obtain ⟨_, layers, ⟨_, center, ⟨_, bounds, ⟨_, high, ⟨_, low, ⟨_, attribution, ⟨_, description,
    ⟨_, name, rfl, -, rfl⟩, -, rfl⟩, -, rfl⟩, hlow, rfl⟩, hhigh, rfl⟩, -, rfl⟩, -, rfl⟩, hlayers,
    rfl⟩ := hbuilt
  refine ⟨isProper_of_required hlow hhigh (check_eq_ok.mp hcheck), ?_, hnodup⟩
  intro layer hlayer
  obtain ⟨item, hitem⟩ := exists_of_mem_optional hlayers hlayer
  exact Layer.isConsistent_of_ofJson hitem

/-- The tileset of a document, which is a text or its encoding. -/
def Tileset.IsAccepted (tileset : Tileset) : Prop :=
  (∃ text, Tileset.ofText text = .ok tileset) ∨ ∃ bytes, Tileset.ofBytes bytes = .ok tileset

/-- **A tileset that was accepted is consistent.** -/
theorem Tileset.IsAccepted.isConsistent (h : tileset.IsAccepted) : tileset.IsConsistent := by
  rcases h with ⟨text, h⟩ | ⟨bytes, h⟩
  · rw [Tileset.ofText] at h
    split at h
    · exact Tileset.isConsistent_of_ofJson h
    · exact absurd h reject_ne_ok
  · rw [Tileset.ofBytes] at h
    split at h
    · exact Tileset.isConsistent_of_ofJson h
    · exact absurd h reject_ne_ok

end Records

end VectorTiles
