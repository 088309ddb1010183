import VectorTiles.Proofs.Tile.Compilation
import VectorTiles.Proofs.Tileset.Acceptance

/-!
# What a tileset compiles to

**Data.** A layer is served by the first of its queries that covers the zoom level, if the layer
itself covers it. An entry is a served layer with this query; the entries of a tileset stand in the
order of its layers, and there are none outside of its range.

**Rules.** Only the queries of entries are looked at. The first one that cannot be embedded decides
the failure. The name of a layer that was accepted can always be embedded.

**Results.**

* `applies_iff`: the entries of a tileset.
* `isOutcome_compile`: the outcome that the entries demand.
* `exists_isOutcome_compile`: the same for tilesets that were accepted, with what does not matter.
-/

namespace VectorTiles
namespace Tile

open Sql

section Entries

/-- The first query that covers a zoom level, in a layer that covers it. -/
structure Serves (layer : Layer) (zoom : Int) (query : Query) : Prop where
  covers_layer : layer.range.covers zoom = true
  covers_query : query.range.covers zoom = true
  isFirst : ∃ before after, layer.queries = before ++ query :: after ∧
    ∀ earlier ∈ before, earlier.range.covers zoom = false

/-- The entries of layers. -/
inductive Lists (zoom : Int) : List Layer → List (Layer × Query) → Prop
  | nil : Lists zoom [] []
  | skip {layer : Layer} {layers : List Layer} {entries : List (Layer × Query)}
      (hnone : ∀ query, ¬ Serves layer zoom query) (hrest : Lists zoom layers entries) :
      Lists zoom (layer :: layers) entries
  | serve {layer : Layer} {query : Query} {layers : List Layer} {entries : List (Layer × Query)}
      (hquery : Serves layer zoom query) (hrest : Lists zoom layers entries) :
      Lists zoom (layer :: layers) ((layer, query) :: entries)

/-- The entries of a tileset. -/
def Applies (tileset : Tileset) (zoom : Int) (entries : List (Layer × Query)) : Prop :=
  if tileset.range.covers zoom then Lists zoom tileset.layers entries else entries = []

variable {layer : Layer} {query : Query} {zoom : Int} {layers : List Layer}
  {entries : List (Layer × Query)} {tileset : Tileset}

theorem serves_iff : Serves layer zoom query ↔ layer.queryAt? zoom = some query := by
  rw [Layer.queryAt?]
  constructor
  · rintro ⟨hlayer, hquery, before, after, hqueries, hbefore⟩
    rw [if_pos hlayer, List.find?_eq_some_iff_append]
    refine ⟨hquery, before, after, hqueries, fun earlier hearlier => ?_⟩
    rw [hbefore earlier hearlier]
    rfl
  · intro h
    split_ifs at h with hlayer
    · obtain ⟨hquery, before, after, hqueries, hbefore⟩ := List.find?_eq_some_iff_append.mp h
      refine ⟨hlayer, hquery, before, after, hqueries, fun earlier hearlier => ?_⟩
      simpa using hbefore earlier hearlier

theorem servedLayers_cons : servedLayers (layer :: layers) zoom =
    match layer.queryAt? zoom with
    | some query => (layer, query) :: servedLayers layers zoom
    | none => servedLayers layers zoom := by
  cases hquery : layer.queryAt? zoom with
  | none => simp [servedLayers, hquery]
  | some query => simp [servedLayers, hquery]

theorem lists_iff : Lists zoom layers entries ↔ entries = servedLayers layers zoom := by
  constructor
  · intro h
    induction h with
    | nil => rfl
    | @skip layer layers entries hnone hrest ih =>
        have hquery : layer.queryAt? zoom = none := by
          cases hquery : layer.queryAt? zoom with
          | none => rfl
          | some query => exact absurd (serves_iff.mpr hquery) (hnone query)
        rw [servedLayers_cons, hquery]
        exact ih
    | serve hquery hrest ih =>
        rw [servedLayers_cons, serves_iff.mp hquery, ih]
  · rintro rfl
    induction layers with
    | nil => exact .nil
    | cons layer layers ih =>
        rw [servedLayers_cons]
        cases hquery : layer.queryAt? zoom with
        | none =>
            refine .skip (fun query hserves => ?_) ih
            rw [serves_iff.mp hserves] at hquery
            cases hquery
        | some query => exact .serve (serves_iff.mpr hquery) ih

theorem applies_iff : Applies tileset zoom entries ↔ entries = served tileset zoom := by
  rw [Applies, served]
  split_ifs
  · exact lists_iff
  · exact Iff.rfl

end Entries

section Outcomes

/-- The outcome that entries demand at a zoom level. -/
inductive IsOutcome (zoom : Int) (entries : List (Layer × Query)) :
    Except CompileFault Statement → Prop
  | outOfRange {fault : CompileFault} (hzoom : ¬ (0 ≤ zoom ∧ zoom ≤ 30))
      (hfault : fault = .zoomOutOfRange zoom)
      (hmessage : fault.message = "zoom " ++ toString zoom ++ " is out of range") :
      IsOutcome zoom entries (.error fault)
  | empty (hzoom : 0 ≤ zoom ∧ zoom ≤ 30) (hentries : entries = []) :
      IsOutcome zoom entries (.ok (Statement.empty zoom))
  | refused {before after : List (Layer × Query)} {layer : Layer} {query : Query}
      {cause : SourceFault} {fault : CompileFault} (hzoom : 0 ≤ zoom ∧ zoom ≤ 30)
      (hentries : entries = before ++ (layer, query) :: after)
      (hbefore : ∀ entry ∈ before, checkSource entry.2.sql.toList = .ok ())
      (hcause : checkSource query.sql.toList = .error cause)
      (hfault : fault = .source layer.name query.range cause)
      (hmessage : fault.message = "layer " ++ Text.quoted layer.name ++ " (zoom " ++
        (toString query.range.min ++ "-" ++ toString query.range.max) ++ "): " ++ cause.message) :
      IsOutcome zoom entries (.error fault)
  | compiled {fragments : List (List Char)} (hzoom : 0 ≤ zoom ∧ zoom ≤ 30)
      (hentries : entries ≠ [])
      (hfragments : List.Forall₂ (fun entry fragment => queryFragment entry.1 entry.2 = .ok fragment)
        entries fragments) :
      IsOutcome zoom entries (.ok ⟨zoom, String.ofList (Statement.joined fragments),
        entries.map (·.1.name), entries.flatMap fun _ => [.z, .x, .y, .z, .x, .y]⟩)

variable {zoom : Int} {layers : List Layer} {entries : List (Layer × Query)} {tileset : Tileset}

theorem covers_everyZoom_iff : everyZoom.covers zoom = true ↔ 0 ≤ zoom ∧ zoom ≤ 30 := by
  rw [ZoomRange.covers, Bool.and_eq_true, decide_eq_true_eq, decide_eq_true_eq]
  exact Iff.rfl

theorem isSome_quoteLiteral? {name : String} (h : IsLayerName name) :
    (quoteLiteral? name.toList).isSome = true := by
  obtain ⟨hblank, hnull⟩ := h
  rw [quoteLiteral?, if_neg]
  · rfl
  · rw [Bool.or_eq_true, List.isEmpty_iff, List.contains_iff_mem]
    rintro (hempty | hmem)
    · rw [hempty] at hblank
      exact hblank fun c hc => absurd hc List.not_mem_nil
    · exact hnull hmem

/-- A source that cannot be embedded stops the compilation if it is the first one. -/
theorem fragmentsAt_of_fault {before after : List (Layer × Query)} {layer : Layer} {query : Query}
    {cause : SourceFault}
    (hserved : servedLayers layers zoom = before ++ (layer, query) :: after)
    (hbefore : ∀ entry ∈ before, IsServable entry)
    (hcause : checkSource query.sql.toList = .error cause) :
    fragmentsAt zoom layers = .error (.source layer.name query.range cause) := by
  induction layers generalizing before with
  | nil => simp [servedLayers] at hserved
  | cons first layers ih =>
      rw [servedLayers_cons] at hserved
      rw [fragmentsAt, layerFragment?]
      cases hquery : first.queryAt? zoom with
      | none =>
          rw [hquery] at hserved
          rw [ih hserved hbefore]
          rfl
      | some own =>
          rw [hquery] at hserved
          cases before with
          | nil =>
              obtain ⟨hentry, -⟩ := List.cons.inj hserved
              obtain ⟨rfl, rfl⟩ := Prod.mk.inj hentry
              have hfragment : queryFragment first own =
                  .error (.source first.name own.range cause) := by
                rw [queryFragment, hcause]
              simp only [hfragment]
              rfl
          | cons entry before =>
              obtain ⟨rfl, hrest⟩ := List.cons.inj hserved
              obtain ⟨hfirst, hothers⟩ := List.forall_mem_cons.mp hbefore
              simp only [queryFragment_of_isServable hfirst, ih hrest hothers]
              rfl

/-- All sources can be embedded, or there is a first one that cannot. -/
theorem forall_or_exists_fault (entries : List (Layer × Query)) :
    (∀ entry ∈ entries, checkSource entry.2.sql.toList = .ok ()) ∨
      ∃ before layer query after cause, entries = before ++ (layer, query) :: after ∧
        (∀ entry ∈ before, checkSource entry.2.sql.toList = .ok ()) ∧
        checkSource query.sql.toList = .error cause := by
  induction entries with
  | nil => exact .inl fun entry hentry => absurd hentry List.not_mem_nil
  | cons entry entries ih =>
      cases hcheck : checkSource entry.2.sql.toList with
      | error cause =>
          refine .inr ⟨[], entry.1, entry.2, entries, cause, rfl, ?_, hcheck⟩
          intro other hother
          cases hother
      | ok done =>
          rcases ih with hall | ⟨before, layer, query, after, cause, rfl, hbefore, hcause⟩
          · exact .inl (List.forall_mem_cons.mpr ⟨hcheck, hall⟩)
          · exact .inr ⟨entry :: before, layer, query, after, cause, rfl,
              List.forall_mem_cons.mpr ⟨hcheck, hbefore⟩, hcause⟩

theorem mem_layers_of_mem_servedLayers {entry : Layer × Query}
    (h : entry ∈ servedLayers layers zoom) : entry.1 ∈ layers := by
  obtain ⟨layer, hlayer, hquery⟩ := List.mem_filterMap.mp h
  obtain ⟨query, -, rfl⟩ := Option.map_eq_some_iff.mp hquery
  exact hlayer

theorem fst_compile (hzoom : everyZoom.covers zoom = true)
    (hrange : tileset.range.covers zoom = true) :
    (compile tileset zoom).1 = (fragmentsAt zoom tileset.layers).map fun fragments =>
      if fragments.isEmpty then Statement.empty zoom else Statement.ofFragments zoom fragments := by
  rw [compile, hzoom, hrange]
  rcases fragmentsAt zoom tileset.layers with fault | _ | ⟨fragment, fragments⟩ <;> rfl

theorem ofFragments_entries (zoom : Int) (entries : List (Layer × Query)) :
    Statement.ofFragments zoom (entries.map fun entry => (entry.1.name, servedFragment entry)) =
      ⟨zoom, String.ofList (Statement.joined (entries.map servedFragment)),
        entries.map (·.1.name), entries.flatMap fun _ => [.z, .x, .y, .z, .x, .y]⟩ := by
  simp only [Statement.ofFragments, List.map_map, List.flatMap_map, Function.comp_def]
  rfl

/-- The fragments of layers with usable names, joined or up to the first fault. -/
theorem isOutcome_fragmentsAt (hzoom : 0 ≤ zoom ∧ zoom ≤ 30)
    (hnames : ∀ layer ∈ layers, IsLayerName layer.name) :
    IsOutcome zoom (servedLayers layers zoom) ((fragmentsAt zoom layers).map fun fragments =>
      if fragments.isEmpty then Statement.empty zoom else Statement.ofFragments zoom fragments) := by
  have hquote : ∀ entry ∈ servedLayers layers zoom,
      (quoteLiteral? entry.1.name.toList).isSome = true :=
    fun entry hentry => isSome_quoteLiteral? (hnames _ (mem_layers_of_mem_servedLayers hentry))
  rcases forall_or_exists_fault (servedLayers layers zoom) with
    hall | ⟨before, layer, query, after, cause, hentries, hbefore, hcause⟩
  · have hservable : ∀ entry ∈ servedLayers layers zoom, IsServable entry :=
      fun entry hentry => ⟨hall entry hentry, hquote entry hentry⟩
    rw [fragmentsAt_of_isServable hservable]
    by_cases hnil : servedLayers layers zoom = []
    · rw [hnil]
      exact .empty hzoom rfl
    · have hfragments : List.Forall₂ (fun entry fragment =>
          queryFragment entry.1 entry.2 = .ok fragment) (servedLayers layers zoom)
          ((servedLayers layers zoom).map servedFragment) := by
        rw [List.forall₂_map_right_iff, List.forall₂_same]
        exact fun entry hentry => queryFragment_of_isServable (hservable entry hentry)
      have hcompiled := IsOutcome.compiled hzoom hnil hfragments
      rw [← ofFragments_entries] at hcompiled
      simpa [Except.map, hnil] using hcompiled
  · have hservable : ∀ entry ∈ before, IsServable entry := by
      intro entry hentry
      refine ⟨hbefore entry hentry, hquote entry ?_⟩
      rw [hentries]
      exact List.mem_append_left _ hentry
    rw [fragmentsAt_of_fault hentries hservable hcause]
    exact .refused hzoom hentries hbefore hcause rfl rfl

/-- **A consistent tileset has the outcome that its entries demand.** -/
theorem isOutcome_compile (h : tileset.IsConsistent) (zoom : Int) :
    IsOutcome zoom (served tileset zoom) (compile tileset zoom).1 := by
  by_cases hzoom : everyZoom.covers zoom = true
  · have hlimits := covers_everyZoom_iff.mp hzoom
    by_cases hrange : tileset.range.covers zoom = true
    · rw [served, if_pos hrange, fst_compile hzoom hrange]
      exact isOutcome_fragmentsAt hlimits fun layer hlayer => (h.2.1 layer hlayer).1
    · have hcompile : (compile tileset zoom).1 = .ok (Statement.empty zoom) := by
        rw [compile, hzoom, Bool.eq_false_iff.mpr hrange]
        rfl
      rw [served, if_neg hrange, hcompile]
      exact .empty hlimits rfl
  · have hcompile : (compile tileset zoom).1 = .error (.zoomOutOfRange zoom) := by
      rw [compile, Bool.eq_false_iff.mpr hzoom]
      rfl
    rw [hcompile]
    exact .outOfRange (fun hlimits => hzoom (covers_everyZoom_iff.mpr hlimits)) rfl rfl

end Outcomes

section Sources

def nameAndSource (entry : Layer × Query) : String × String :=
  (entry.1.name, entry.2.sql)

def sourceFragment (pair : String × String) : List Char :=
  fragmentText (escapePercent (literal pair.1.toList)) (embeddedSource pair.2.toList)
    envelopePlaceholders

/-- The statement of names and sources, unless one of the sources cannot be embedded. -/
def statementOf? (zoom : Int) (pairs : List (String × String)) : Option Statement :=
  if everyZoom.covers zoom && pairs.all fun pair => !(checkSource pair.2.toList).toOption.isNone then
    some <|
      if pairs.isEmpty then Statement.empty zoom
      else Statement.ofFragments zoom (pairs.map fun pair => (pair.1, sourceFragment pair))
  else none

variable {zoom : Int} {entries : List (Layer × Query)} {tileset : Tileset}
  {outcome : Except CompileFault Statement}

theorem eq_map_of_forall₂ {fragments : List (List Char)}
    (h : List.Forall₂ (fun entry fragment => queryFragment entry.1 entry.2 = .ok fragment)
      entries fragments) :
    fragments = entries.map servedFragment ∧
      ∀ entry ∈ entries, checkSource entry.2.sql.toList = .ok () := by
  induction h with
  | nil => exact ⟨rfl, fun entry hentry => absurd hentry List.not_mem_nil⟩
  | cons hfirst hrest ih =>
      obtain ⟨hcheck, rfl⟩ := queryFragment_eq_ok hfirst
      obtain ⟨rfl, hothers⟩ := ih
      exact ⟨rfl, List.forall_mem_cons.mpr ⟨hcheck, hothers⟩⟩

/-- The statement depends on the names and the sources of the entries only. -/
theorem toOption_of_isOutcome (h : IsOutcome zoom entries outcome) :
    outcome.toOption = statementOf? zoom (entries.map nameAndSource) := by
  rw [statementOf?]
  cases h with
  | outOfRange hzoom hfault =>
      have hcovers : everyZoom.covers zoom = false :=
        Bool.eq_false_iff.mpr fun hcovers => hzoom (covers_everyZoom_iff.mp hcovers)
      rw [hcovers, Bool.false_and, if_neg Bool.false_ne_true]
      rfl
  | empty hzoom hentries =>
      rw [covers_everyZoom_iff.mpr hzoom, hentries]
      rfl
  | refused hzoom hentries hbefore hcause hfault =>
      rw [covers_everyZoom_iff.mpr hzoom, hentries, if_neg]
      · rfl
      · simp [nameAndSource, hcause, Except.toOption]
  | compiled hzoom hentries hfragments =>
      obtain ⟨rfl, hchecked⟩ := eq_map_of_forall₂ hfragments
      have hall : (entries.map nameAndSource).all
          (fun pair => !(checkSource pair.2.toList).toOption.isNone) = true := by
        refine List.all_eq_true.mpr (List.forall_mem_map.mpr fun entry hentry => ?_)
        rw [nameAndSource, hchecked entry hentry]
        rfl
      have hnonempty : (entries.map nameAndSource).isEmpty = false := by simp [hentries]
      rw [covers_everyZoom_iff.mpr hzoom, hall, hnonempty, ← ofFragments_entries, List.map_map]
      rfl

/-- **An accepted tileset compiles to what its entries demand.** The entries are determined by the
ranges alone, and the statement by their names and sources alone: two tilesets that agree in these
compile to the same statement, or both to none, whatever else they contain. -/
theorem exists_isOutcome_compile (h : tileset.IsAccepted) (zoom : Int) :
    ∃ entries, (∀ others, Applies tileset zoom others ↔ others = entries) ∧
      IsOutcome zoom entries (compile tileset zoom).1 ∧
      ∀ other : Tileset, other.IsAccepted → ∀ others, Applies other zoom others →
        others.map nameAndSource = entries.map nameAndSource →
          (compile other zoom).1.toOption = (compile tileset zoom).1.toOption := by
  have houtcome := isOutcome_compile h.isConsistent zoom
  refine ⟨served tileset zoom, fun others => applies_iff, houtcome, ?_⟩
  intro other hother others hothers hsame
  obtain rfl := applies_iff.mp hothers
  have hotherOutcome := isOutcome_compile hother.isConsistent zoom
  rw [toOption_of_isOutcome houtcome, toOption_of_isOutcome hotherOutcome, hsame]

/-- Two layers, one of which has a query that cannot be embedded and serves no zoom level. -/
def roadsDocument : String :=
  "\x7b\"minzoom\":0,\"maxzoom\":14,\"vector_layers\":[" ++
    "\x7b\"id\":\"roads\",\"minzoom\":4,\"maxzoom\":20,\"queries\":[" ++
      "\x7b\"minzoom\":4,\"maxzoom\":9,\"sql\":\"SELECT 1\"\x7d," ++
      "\x7b\"minzoom\":5,\"maxzoom\":6,\"sql\":\";(\"\x7d]\x7d," ++
    "\x7b\"id\":\"lights\",\"minzoom\":8,\"maxzoom\":9\x7d]\x7d"

def readsOff (document : String) (property : Tileset → Bool) : Bool :=
  match Tileset.ofText document with
  | .ok tileset => property tileset
  | .error _ => false

theorem exists_of_readsOff {document : String} {property : Tileset → Bool}
    (h : readsOff document property = true) :
    ∃ tileset, Tileset.ofText document = .ok tileset ∧ property tileset = true := by
  rw [readsOff] at h
  split at h
  · exact ⟨_, ‹_›, h⟩
  · cases h

theorem readsOff_roadsDocument : readsOff roadsDocument (fun tileset =>
    (served tileset 5).map nameAndSource = [("roads", "SELECT 1")]) = true := by
  decide +kernel

theorem exists_isOutcome_compile_roadsDocument :
    ∃ tileset, Tileset.ofText roadsDocument = .ok tileset ∧ tileset.IsAccepted ∧
      ∃ entries, Applies tileset 5 entries ∧ entries.map nameAndSource = [("roads", "SELECT 1")] ∧
        IsOutcome 5 entries (compile tileset 5).1 := by
  obtain ⟨tileset, hdocument, hserved⟩ := exists_of_readsOff readsOff_roadsDocument
  have haccepted : tileset.IsAccepted := .inl ⟨roadsDocument, hdocument⟩
  obtain ⟨entries, happlies, houtcome, -⟩ := exists_isOutcome_compile haccepted 5
  obtain rfl := (happlies _).mp (applies_iff.mpr rfl)
  exact ⟨tileset, hdocument, haccepted, served tileset 5, applies_iff.mpr rfl,
    of_decide_eq_true hserved, houtcome⟩

end Sources

end Tile
end VectorTiles
