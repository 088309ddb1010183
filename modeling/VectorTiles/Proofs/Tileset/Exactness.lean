import VectorTiles.Proofs.Schema.Description
import VectorTiles.Proofs.Schema.Refusal
import VectorTiles.Proofs.Tileset.Acceptance

/-!
# Exact acceptance

A document is accepted if and only if it describes a consistent tileset, which is then the one that is
returned.

**Data.** What a document describes are names, texts, numbers, and layers and queries in their order.
It may be described without being consistent: zoom levels are any whole numbers then, and names any
texts.

**Results.**

* `DescribesQuery`, `DescribesLayer`, `DescribesTileset`: what the members of an object describe.
* `reads_query`, `reads_layer`, `reads_tileset`: what is described is returned if it is consistent.
* `isExact_ofDocument`: the same for documents, and why they are refused.
-/

namespace VectorTiles

open Partiality Schema Relator

section Descriptions

/-- The members of an object describe a query. -/
structure DescribesQuery (members : List (String × Json)) (query : Query) : Prop where
  low : Member (Converts toInteger) members ["minzoom"] query.range.min
  high : Member (Converts toInteger) members ["maxzoom"] query.range.max
  sql : Member IsText members ["sql"] query.sql

structure DescribesLayer (members : List (String × Json)) (layer : Layer) : Prop where
  name : Member IsText members ["name", "id"] layer.name
  description : MemberOr none (IsNullable IsText) members ["description"] layer.description
  properties : MemberOr [] IsObject members ["properties", "fields"] layer.properties
  low : Member (Converts toInteger) members ["minzoom"] layer.range.min
  high : Member (Converts toInteger) members ["maxzoom"] layer.range.max
  queries : MemberOr [] (IsArray (IsRecord DescribesQuery)) members ["queries"] layer.queries

/-- An array of four numbers. -/
def DescribesBounds (value : Json) (bounds : Bounds) : Prop :=
  IsArray (Converts toNumber) value bounds.toList

/-- An array of three numbers. -/
def DescribesCenter (value : Json) (center : Center) : Prop :=
  IsArray (Converts toNumber) value center.toList

structure DescribesTileset (members : List (String × Json)) (tileset : Tileset) : Prop where
  name : MemberOr "tileset" IsText members ["name"] tileset.name
  description : MemberOr none (IsNullable IsText) members ["description"] tileset.description
  attribution : MemberOr none (IsNullable IsText) members ["attribution"] tileset.attribution
  low : Member (Converts toInteger) members ["minzoom"] tileset.range.min
  high : Member (Converts toInteger) members ["maxzoom"] tileset.range.max
  bounds : MemberOr none (IsNullable DescribesBounds) members ["bounds"] tileset.bounds
  center : MemberOr none (IsNullable DescribesCenter) members ["center"] tileset.center
  layers : MemberOr [] (IsArray (IsRecord DescribesLayer)) members ["vector_layers"] tileset.layers

end Descriptions

section Uniqueness

theorem rightUnique_describesQuery : RightUnique DescribesQuery := by
  rintro members ⟨⟨low, high⟩, sql⟩ ⟨⟨otherLow, otherHigh⟩, otherSql⟩ hone htwo
  obtain rfl : low = otherLow := hone.low.eq (rightUnique_converts _) htwo.low
  obtain rfl : high = otherHigh := hone.high.eq (rightUnique_converts _) htwo.high
  obtain rfl : sql = otherSql := hone.sql.eq rightUnique_isText htwo.sql
  rfl

theorem rightUnique_describesLayer : RightUnique DescribesLayer := by
  rintro members ⟨name, description, properties, ⟨low, high⟩, queries⟩
    ⟨otherName, otherDescription, otherProperties, ⟨otherLow, otherHigh⟩, otherQueries⟩ hone htwo
  obtain rfl : name = otherName := hone.name.eq rightUnique_isText htwo.name
  obtain rfl : description = otherDescription :=
    hone.description.eq (rightUnique_isNullable rightUnique_isText) htwo.description
  obtain rfl : properties = otherProperties :=
    hone.properties.eq rightUnique_isObject htwo.properties
  obtain rfl : low = otherLow := hone.low.eq (rightUnique_converts _) htwo.low
  obtain rfl : high = otherHigh := hone.high.eq (rightUnique_converts _) htwo.high
  obtain rfl : queries = otherQueries :=
    hone.queries.eq (rightUnique_isArray (rightUnique_isRecord rightUnique_describesQuery))
      htwo.queries
  rfl

theorem rightUnique_describesBounds : RightUnique DescribesBounds := by
  intro value one two hone htwo
  have hlist : one.toList = two.toList := rightUnique_isArray (rightUnique_converts _) hone htwo
  cases one
  cases two
  simpa [Bounds.toList] using hlist

theorem rightUnique_describesCenter : RightUnique DescribesCenter := by
  intro value one two hone htwo
  have hlist : one.toList = two.toList := rightUnique_isArray (rightUnique_converts _) hone htwo
  cases one
  cases two
  simpa [Center.toList] using hlist

theorem rightUnique_describesTileset : RightUnique DescribesTileset := by
  rintro members ⟨name, description, attribution, ⟨low, high⟩, bounds, center, layers⟩
    ⟨otherName, otherDescription, otherAttribution, ⟨otherLow, otherHigh⟩, otherBounds, otherCenter,
      otherLayers⟩ hone htwo
  have htext := rightUnique_isNullable rightUnique_isText
  obtain rfl : name = otherName := hone.name.eq rightUnique_isText htwo.name
  obtain rfl : description = otherDescription := hone.description.eq htext htwo.description
  obtain rfl : attribution = otherAttribution := hone.attribution.eq htext htwo.attribution
  obtain rfl : low = otherLow := hone.low.eq (rightUnique_converts _) htwo.low
  obtain rfl : high = otherHigh := hone.high.eq (rightUnique_converts _) htwo.high
  obtain rfl : bounds = otherBounds :=
    hone.bounds.eq (rightUnique_isNullable rightUnique_describesBounds) htwo.bounds
  obtain rfl : center = otherCenter :=
    hone.center.eq (rightUnique_isNullable rightUnique_describesCenter) htwo.center
  obtain rfl : layers = otherLayers :=
    hone.layers.eq (rightUnique_isArray (rightUnique_isRecord rightUnique_describesLayer)) htwo.layers
  rfl

end Uniqueness

section Readings

/-- A zoom level at which tiles can exist. -/
def IsZoom (zoom : Int) : Prop :=
  lowestZoom ≤ zoom ∧ zoom ≤ highestZoom

theorem isProper_iff (range : ZoomRange) :
    range.IsProper ↔ IsZoom range.min ∧ IsZoom range.max ∧ range.min ≤ range.max := by
  rw [ZoomRange.IsProper, IsZoom, IsZoom]
  omega

theorem reads_toZoom : Reads toZoom (Converts toInteger) IsZoom :=
  fun _ _ => toZoom_eq_ok

theorem reads_layerName :
    Reads (fun value => do Layer.checkName (← toText value)) IsText IsLayerName := by
  intro value name
  rw [bind_eq_ok]
  constructor
  · rintro ⟨text, htext, hname⟩
    obtain ⟨husable, rfl⟩ := checkName_eq_ok.mp hname
    exact ⟨((reads_toText value text).mp htext).1, husable⟩
  · rintro ⟨htext, husable⟩
    exact ⟨name, (reads_toText value name).mpr ⟨htext, trivial⟩, checkName_eq_ok.mpr ⟨husable, rfl⟩⟩

theorem reads_bounds : Reads Bounds.ofJson DescribesBounds fun _ => True := by
  intro value bounds
  rw [and_true, Bounds.ofJson]
  simp only [bind_eq_ok, apply_eq_ok, build_eq_ok, toPlaces_eq_ok]
  constructor
  · rintro ⟨items, ⟨rfl, hlength⟩, _, _, ⟨_, _, ⟨_, _, ⟨_, _, rfl, hwest, rfl⟩, hsouth, rfl⟩, heast,
      rfl⟩, hnorth, rfl⟩
    refine .array (forall₂_of_places hlength fun index a ha => ?_)
    match index, ha with
    | 0, rfl => exact hwest
    | 1, rfl => exact hsouth
    | 2, rfl => exact heast
    | 3, rfl => exact hnorth
  · rintro ⟨h⟩
    exact ⟨_, ⟨rfl, h.length_eq.le⟩, _, bounds.north, ⟨_, bounds.east, ⟨_, bounds.south,
      ⟨_, bounds.west, rfl, place_of_forall₂ h rfl, rfl⟩, place_of_forall₂ h rfl, rfl⟩,
      place_of_forall₂ h rfl, rfl⟩, place_of_forall₂ h rfl, rfl⟩

theorem reads_center : Reads Center.ofJson DescribesCenter fun _ => True := by
  intro value center
  rw [and_true, Center.ofJson]
  simp only [bind_eq_ok, apply_eq_ok, build_eq_ok, toPlaces_eq_ok]
  constructor
  · rintro ⟨items, ⟨rfl, hlength⟩, _, _, ⟨_, _, ⟨_, _, rfl, hlongitude, rfl⟩, hlatitude, rfl⟩, hzoom,
      rfl⟩
    refine .array (forall₂_of_places hlength fun index a ha => ?_)
    match index, ha with
    | 0, rfl => exact hlongitude
    | 1, rfl => exact hlatitude
    | 2, rfl => exact hzoom
  · rintro ⟨h⟩
    exact ⟨_, ⟨rfl, h.length_eq.le⟩, _, center.zoom, ⟨_, center.latitude, ⟨_, center.longitude, rfl,
      place_of_forall₂ h rfl, rfl⟩, place_of_forall₂ h rfl, rfl⟩, place_of_forall₂ h rfl, rfl⟩

/-- **A query is read if and only if its range is proper.** -/
theorem reads_query :
    Reads Query.ofJson (IsRecord DescribesQuery) fun query => query.range.IsProper := by
  refine reads_record fun members query => ?_
  simp only [bind_eq_ok, exists_apply_eq_ok, exists_build_eq_ok, reads_toZoom.required,
    reads_toText.required, check_eq_ok, isProper_iff]
  constructor
  · rintro ⟨low, ⟨hlow, hlowZoom⟩, high, ⟨hhigh, hhighZoom⟩, sql, ⟨hsql, -⟩, _, hle, hquery⟩
    obtain rfl := Except.ok.inj hquery
    exact ⟨⟨hlow, hhigh, hsql⟩, hlowZoom, hhighZoom, hle⟩
  · rintro ⟨h, hlowZoom, hhighZoom, hle⟩
    exact ⟨_, ⟨h.low, hlowZoom⟩, _, ⟨h.high, hhighZoom⟩, _, ⟨h.sql, trivial⟩, (), hle, rfl⟩

/-- **A layer is read if and only if it is consistent.** -/
theorem reads_layer : Reads Layer.ofJson (IsRecord DescribesLayer) Layer.IsConsistent := by
  refine reads_record fun members layer => ?_
  have hqueries : ∀ query ∈ ([] : List Query), query.range.IsProper := List.forall_mem_nil _
  simp only [bind_eq_ok, exists_apply_eq_ok, exists_build_eq_ok, reads_layerName.required,
    reads_toText.toOptional.optional trivial, reads_toMembers.optional trivial,
    reads_toZoom.required, reads_query.toItems.optional hqueries, check_eq_ok, Layer.IsConsistent,
    isProper_iff layer.range]
  constructor
  · rintro ⟨name, ⟨hname, husable⟩, description, ⟨hdescription, -⟩, properties, ⟨hproperties, -⟩,
      low, ⟨hlow, hlowZoom⟩, high, ⟨hhigh, hhighZoom⟩, queries, ⟨hmember, hproper⟩, _, hle, hlayer⟩
    obtain rfl := Except.ok.inj hlayer
    exact ⟨⟨hname, hdescription, hproperties, hlow, hhigh, hmember⟩, husable,
      ⟨hlowZoom, hhighZoom, hle⟩, hproper⟩
  · rintro ⟨h, husable, ⟨hlowZoom, hhighZoom, hle⟩, hproper⟩
    exact ⟨_, ⟨h.name, husable⟩, _, ⟨h.description, trivial⟩, _, ⟨h.properties, trivial⟩,
      _, ⟨h.low, hlowZoom⟩, _, ⟨h.high, hhighZoom⟩, _, ⟨h.queries, hproper⟩, (), hle, rfl⟩

theorem checkNames_eq_ok {tileset : Tileset} {done : Unit} :
    tileset.checkNames = .ok done ↔ (tileset.layers.map (·.name)).Nodup := by
  have hrepeated : firstRepeated? [] (tileset.layers.map (·.name)) = none ↔
      (tileset.layers.map (·.name)).Nodup := by simp [firstRepeated?_eq_none_iff]
  rw [← hrepeated, Tileset.checkNames]
  cases firstRepeated? [] (tileset.layers.map (·.name)) with
  | none => exact iff_of_true rfl rfl
  | some name => exact iff_of_false reject_ne_ok (Option.some_ne_none name)

/-- **A tileset is read if and only if it is consistent.** -/
theorem reads_tileset : Reads Tileset.ofJson (IsRecord DescribesTileset) Tileset.IsConsistent := by
  refine reads_record fun members tileset => ?_
  have hlayers : ∀ layer ∈ ([] : List Layer), layer.IsConsistent := List.forall_mem_nil _
  simp only [bind_eq_ok, exists_apply_eq_ok, exists_build_eq_ok, reads_toText.optional trivial,
    reads_toText.toOptional.optional trivial, reads_toZoom.required,
    reads_bounds.toOptional.optional trivial, reads_center.toOptional.optional trivial,
    reads_layer.toItems.optional hlayers, check_eq_ok, checkNames_eq_ok, Tileset.IsConsistent,
    isProper_iff tileset.range]
  constructor
  · rintro ⟨name, ⟨hname, -⟩, description, ⟨hdescription, -⟩, attribution, ⟨hattribution, -⟩,
      low, ⟨hlow, hlowZoom⟩, high, ⟨hhigh, hhighZoom⟩, bounds, ⟨hbounds, -⟩, center, ⟨hcenter, -⟩,
      layers, ⟨hmember, hconsistent⟩, _, hle, _, hnodup, htileset⟩
    obtain rfl := Except.ok.inj htileset
    exact ⟨⟨hname, hdescription, hattribution, hlow, hhigh, hbounds, hcenter, hmember⟩,
      ⟨hlowZoom, hhighZoom, hle⟩, hconsistent, hnodup⟩
  · rintro ⟨h, ⟨hlowZoom, hhighZoom, hle⟩, hconsistent, hnodup⟩
    exact ⟨_, ⟨h.name, trivial⟩, _, ⟨h.description, trivial⟩, _, ⟨h.attribution, trivial⟩,
      _, ⟨h.low, hlowZoom⟩, _, ⟨h.high, hhighZoom⟩, _, ⟨h.bounds, trivial⟩, _, ⟨h.center, trivial⟩,
      _, ⟨h.layers, hconsistent⟩, (), hle, (), hnodup, rfl⟩

end Readings

section Refusals

theorem isExplained_toZoom (value : Json) : IsExplained (toZoom value) :=
  (isExplained_toInteger value).bind fun _ =>
    (isExplained_atLeast _ _).bind fun _ => isExplained_atMost _ _

theorem isExplained_check (range : ZoomRange) (owner : String) : IsExplained (range.check owner) := by
  rw [ZoomRange.check]
  split_ifs
  · exact isExplained_reject _
  · exact isExplained_ok ()

theorem isExplained_query (value : Json) : IsExplained (Query.ofJson value) := by
  refine (isExplained_toRecord value).bind fun members => ?_
  have hlow := isExplained_required isExplained_toZoom members "minzoom" []
  have hhigh := isExplained_required isExplained_toZoom members "maxzoom" []
  have hsql := isExplained_required isExplained_toText members "sql" []
  refine ((((isExplained_ok _).apply hlow).apply hhigh).apply hsql).bind fun query => ?_
  exact (isExplained_check query.range "query").bind fun _ => isExplained_ok query

theorem isExplained_checkName (name : String) : IsExplained (Layer.checkName name) := by
  rw [Layer.checkName]
  split_ifs
  · exact isExplained_reject _
  · exact isExplained_reject _
  · exact isExplained_ok name

theorem isExplained_layer (value : Json) : IsExplained (Layer.ofJson value) := by
  refine (isExplained_toRecord value).bind fun members => ?_
  have hname := isExplained_required
    (fun value => (isExplained_toText value).bind isExplained_checkName) members "name" ["id"]
  have hdescription := isExplained_optional (isExplained_toOptional isExplained_toText) members
    ["description"] none
  have hproperties := isExplained_optional isExplained_toMembers members ["properties", "fields"] []
  have hlow := isExplained_required isExplained_toZoom members "minzoom" []
  have hhigh := isExplained_required isExplained_toZoom members "maxzoom" []
  have hqueries := isExplained_optional (isExplained_toItems isExplained_query) members ["queries"] []
  refine (((((((isExplained_ok _).apply hname).apply hdescription).apply hproperties).apply
    hlow).apply hhigh).apply hqueries).bind fun layer => ?_
  exact (isExplained_check layer.range _).bind fun _ => isExplained_ok layer

theorem isExplained_bounds (value : Json) : IsExplained (Bounds.ofJson value) := by
  refine (isExplained_toPlaces 4 value).bind fun items => ?_
  have hplace := isExplained_place isExplained_toNumber items
  exact ((((isExplained_ok _).apply (hplace 0)).apply (hplace 1)).apply (hplace 2)).apply (hplace 3)

theorem isExplained_center (value : Json) : IsExplained (Center.ofJson value) := by
  refine (isExplained_toPlaces 3 value).bind fun items => ?_
  have hplace := isExplained_place isExplained_toNumber items
  exact (((isExplained_ok _).apply (hplace 0)).apply (hplace 1)).apply (hplace 2)

theorem isExplained_checkNames (tileset : Tileset) : IsExplained tileset.checkNames := by
  rw [Tileset.checkNames]
  split
  · exact isExplained_reject _
  · exact isExplained_ok ()

theorem isExplained_tileset (value : Json) : IsExplained (Tileset.ofJson value) := by
  refine (isExplained_toRecord value).bind fun members => ?_
  have htext := isExplained_toOptional isExplained_toText
  have hname := isExplained_optional isExplained_toText members ["name"] "tileset"
  have hdescription := isExplained_optional htext members ["description"] none
  have hattribution := isExplained_optional htext members ["attribution"] none
  have hlow := isExplained_required isExplained_toZoom members "minzoom" []
  have hhigh := isExplained_required isExplained_toZoom members "maxzoom" []
  have hbounds := isExplained_optional (isExplained_toOptional isExplained_bounds) members
    ["bounds"] none
  have hcenter := isExplained_optional (isExplained_toOptional isExplained_center) members
    ["center"] none
  have hlayers := isExplained_optional (isExplained_toItems isExplained_layer) members
    ["vector_layers"] []
  refine (((((((((isExplained_ok _).apply hname).apply hdescription).apply hattribution).apply
    hlow).apply hhigh).apply hbounds).apply hcenter).apply hlayers).bind fun tileset => ?_
  exact (isExplained_check tileset.range "tileset").bind fun _ =>
    (isExplained_checkNames tileset).bind fun _ => isExplained_ok tileset

end Refusals

section Documents

/-- A document: a text, or bytes that should encode one. -/
inductive Document where
  | text (content : String)
  | bytes (content : List UInt8)

/-- The text of a document, unless its bytes encode none. -/
def Document.text? : Document → Option String
  | .text content => some content
  | .bytes content => String.fromUTF8? ⟨content.toArray⟩

/-- The value of a document, unless its text is none of JSON. -/
def Document.value? (document : Document) : Option Json :=
  document.text?.bind fun text => (Json.read Json.Limits.document text).toOption

/-- What becomes of a document. -/
def Tileset.ofDocument : Document → Checked Tileset
  | .text content => Tileset.ofText content
  | .bytes content => Tileset.ofBytes content

/-- A document describes a tileset, be it consistent or not. -/
def Document.Describes (document : Document) (tileset : Tileset) : Prop :=
  ∃ value, document.value? = some value ∧ IsRecord DescribesTileset value tileset

theorem Tileset.ofDocument_eq (document : Document) : Tileset.ofDocument document =
    match document.value? with
    | some value => Tileset.ofJson value
    | none => .error [Issue.here .notJson] := by
  have hread (text : String) : Tileset.ofText text =
      match (Json.read Json.Limits.document text).toOption with
      | some value => Tileset.ofJson value
      | none => .error [Issue.here .notJson] := by
    rw [Tileset.ofText]
    cases Json.read Json.Limits.document text <;> rfl
  cases document with
  | text content => exact hread content
  | bytes content =>
      rw [Tileset.ofDocument, Tileset.ofBytes, Json.readBytes, Document.value?, Document.text?]
      cases String.fromUTF8? ⟨content.toArray⟩ with
      | none => rfl
      | some text => exact hread text

theorem Document.Describes.eq {document : Document} {one two : Tileset}
    (hone : document.Describes one) (htwo : document.Describes two) : one = two := by
  obtain ⟨value, hvalue, hone⟩ := hone
  obtain ⟨other, hother, htwo⟩ := htwo
  obtain rfl : value = other := Option.some.inj (hvalue.symm.trans hother)
  exact rightUnique_isRecord rightUnique_describesTileset hone htwo

theorem Tileset.ofDocument_eq_ok {document : Document} {tileset : Tileset} :
    Tileset.ofDocument document = .ok tileset ↔
      document.Describes tileset ∧ tileset.IsConsistent := by
  rw [Tileset.ofDocument_eq, Document.Describes]
  cases document.value? with
  | none => exact iff_of_false nofun (by simp)
  | some value => simp [reads_tileset value tileset]

/-- What becomes of a document. -/
structure IsExact (document : Document) : Prop where
  /-- A refusal gives its reasons. -/
  ne_nil : ∀ issues, Tileset.ofDocument document = .error issues → issues ≠ []
  of_value?_eq_none : document.value? = none →
    Tileset.ofDocument document = .error [Issue.here .notJson]
  /-- What is described is accepted exactly if it is consistent. -/
  exists_iff : ∀ tileset, document.Describes tileset →
    ((∃ accepted, Tileset.ofDocument document = .ok accepted) ↔ tileset.IsConsistent)
  /-- What is accepted is what is described, in its order and unchanged. -/
  ok_iff : ∀ tileset, Tileset.ofDocument document = .ok tileset ↔
    document.Describes tileset ∧ tileset.IsConsistent

/-- **Acceptance is exact.** A document gives a tileset or the issues that prevent it. Provided that
all of its parts can be read, it gives a tileset if and only if zoom levels lie between the lowest and
the highest one, ranges are in order, and the names of the layers are usable and different. -/
theorem isExact_ofDocument (document : Document) : IsExact document where
  ne_nil := by
    rintro issues hissues rfl
    rw [Tileset.ofDocument_eq] at hissues
    split at hissues
    · exact isExplained_tileset _ hissues
    · cases hissues
  of_value?_eq_none hnone := by rw [Tileset.ofDocument_eq, hnone]
  exists_iff tileset hdescribes := by
    constructor
    · rintro ⟨accepted, haccepted⟩
      obtain ⟨hother, hconsistent⟩ := Tileset.ofDocument_eq_ok.mp haccepted
      exact hdescribes.eq hother ▸ hconsistent
    · exact fun hconsistent => ⟨tileset, Tileset.ofDocument_eq_ok.mpr ⟨hdescribes, hconsistent⟩⟩
  ok_iff _ := Tileset.ofDocument_eq_ok

/-- A layer above the zoom levels of its tileset, with a query above its own. -/
def strayDocument : String :=
  "\x7b\"minzoom\":0,\"maxzoom\":5,\"vector_layers\":[" ++
    "\x7b\"id\":\"roads\",\"minzoom\":7,\"maxzoom\":9,\"queries\":[" ++
      "\x7b\"minzoom\":12,\"maxzoom\":14,\"sql\":\"SELECT 1\"\x7d]\x7d]\x7d"

def IsStray (tileset : Tileset) : Prop :=
  ∃ layer ∈ tileset.layers, tileset.range.max < layer.range.min ∧
    ∃ query ∈ layer.queries, layer.range.max < query.range.min

instance (tileset : Tileset) : Decidable (IsStray tileset) :=
  inferInstanceAs (Decidable (∃ layer ∈ tileset.layers, _ ∧ ∃ query ∈ layer.queries, _))

theorem any_strayDocument :
    (Tileset.ofText strayDocument).toOption.any (fun tileset => IsStray tileset) = true := by
  decide +kernel

theorem isExact_strayDocument : ∃ tileset, IsStray tileset ∧
    (Document.text strayDocument).Describes tileset ∧ tileset.IsConsistent ∧
    Tileset.ofDocument (.text strayDocument) = .ok tileset := by
  have hany := any_strayDocument
  cases hparsed : Tileset.ofText strayDocument with
  | error issues =>
      rw [hparsed] at hany
      cases hany
  | ok tileset =>
      rw [hparsed] at hany
      have hok : Tileset.ofDocument (.text strayDocument) = .ok tileset := hparsed
      obtain ⟨hdescribes, hconsistent⟩ :=
        ((isExact_ofDocument (.text strayDocument)).ok_iff tileset).mp hok
      exact ⟨tileset, of_decide_eq_true hany, hdescribes, hconsistent, hok⟩

end Documents

end VectorTiles
