import VectorTiles.Proofs.Json.Extent
import VectorTiles.Proofs.Tileset.Exactness
import VectorTiles.Tileset.TileJson

/-!
# What clients are told about a tileset

The TileJSON document of a tileset is itself the document of a tileset: the same one without its
queries.

**Rules.** Every layer has a description, which is empty where there was none. A document is nested as
deep as the one that the tileset came from, so it can be read again.

**Results.**

* `Tileset.described`: the tileset that clients are told of.
* `describesTileset_tileJson`: what the members of the document say.
* `Tileset.IsAccepted.hasShallowProperties`, `isWithin_tileJson`: the extent of the document.
* `Tileset.IsAccepted.isSelfDescribed`: what becomes of the document when it is read.
-/

namespace VectorTiles

open Schema Json

section Definitions

/-- A layer that clients are told of. -/
def Layer.described (layer : Layer) : Layer :=
  { layer with description := some (layer.description.getD ""), queries := [] }

/-- The tileset that clients are told of. -/
def Tileset.described (tileset : Tileset) : Tileset :=
  { tileset with layers := tileset.layers.map Layer.described }

/-- The TileJSON document of a tileset is read as the tileset that clients are told of. -/
structure Tileset.IsSelfDescribed (tileset : Tileset) (url : String) : Prop where
  ofValue_eq : Tileset.ofValue (tileset.tileJson url) = .ok tileset.described
  ofDocument_eq : ∀ document : Document, document.value? = some (tileset.tileJson url) →
    Tileset.ofDocument document = .ok tileset.described

end Definitions

section Lookups

variable {α : Type} {R : Json → α → Prop} {a : α} {value : Json} {name : String}
  {members others : List (String × Json)}

theorem lookup?_append (name : String) (members others : List (String × Json)) :
    lookup? name (members ++ others) = (lookup? name members).or (lookup? name others) := by
  induction members with
  | nil => rfl
  | cons member members ih =>
      rw [List.cons_append, lookup?, lookup?, ih]
      split_ifs
      · rfl
      · rfl

/-- A member that is there if there is something that it could hold. -/
theorem lookup?_optional (name key : String) (f : α → Json) (found : Option α) :
    lookup? name (found.map fun a => (key, f a)).toList =
      if key = name then found.map f else none := by
  cases found with
  | none => rw [Option.map_none, Option.map_none, ite_self]; rfl
  | some a => rfl

theorem memberOr_of_lookup? {default : α} (h : lookup? name members = some value) (ha : R value a) :
    MemberOr default R members [name] a :=
  .found (by rw [firstMember?, h]) ha

theorem memberOr_of_optional {β : Type} {S : Json → β → Prop} {f : β → Json} {found : Option β}
    (h : lookup? name members = found.map f) (hf : ∀ b, f b ≠ .null ∧ S (f b) b) :
    MemberOr none (IsNullable S) members [name] found := by
  cases found with
  | none => exact .missing (by rw [firstMember?, h]; rfl)
  | some b => exact memberOr_of_lookup? h (.some (hf b).1 (hf b).2)

end Lookups

section Members

variable {tileset : Tileset} {layer : Layer}

theorem describesLayer_tileJson (layer : Layer) :
    IsRecord DescribesLayer layer.tileJson layer.described := by
  refine .object ?_
  constructor
  case name => exact @Member.found _ _ _ _ "id" _ _ rfl (.string _)
  case description => exact @MemberOr.found _ _ _ _ _ "description" _ _ rfl (.some nofun (.string _))
  case properties => exact @MemberOr.found _ _ _ _ _ "fields" _ _ rfl (.object _)
  case low => exact @Member.found _ _ _ _ "minzoom" _ _ rfl rfl
  case high => exact @Member.found _ _ _ _ "maxzoom" _ _ rfl rfl
  case queries => exact .missing rfl

theorem forall₂_floats (xs : List Binary64) :
    List.Forall₂ (Converts toNumber) (xs.map .float) xs := by
  rw [List.forall₂_map_left_iff, List.forall₂_same]
  exact fun _ _ => rfl

/-- The members that a tileset may lack stand behind the ones that it has in any case. -/
theorem lookup?_optionalMembers (tileset : Tileset) (name : String) :
    lookup? name tileset.optionalMembers =
      (((if "description" = name then tileset.description.map .string else none).or
        (if "attribution" = name then tileset.attribution.map .string else none)).or
        (if "bounds" = name then
          tileset.bounds.map fun bounds => .array (bounds.toList.map .float) else none)).or
        (if "center" = name then
          tileset.center.map fun center => .array (center.toList.map .float) else none) := by
  simp only [Tileset.optionalMembers, lookup?_append, lookup?_optional]

theorem forall₂_layers (layers : List Layer) :
    List.Forall₂ (IsRecord DescribesLayer) (layers.map Layer.tileJson)
      (layers.map Layer.described) := by
  rw [List.forall₂_map_left_iff, List.forall₂_map_right_iff, List.forall₂_same]
  exact fun layer _ => describesLayer_tileJson layer

/-- **What the members of the document say.** -/
theorem describesTileset_tileJson (tileset : Tileset) (url : String) :
    IsRecord DescribesTileset (tileset.tileJson url) tileset.described := by
  have htext (text : String) : (Json.string text) ≠ .null ∧ IsText (.string text) text :=
    ⟨nofun, .string text⟩
  have hdescription : lookup? "description" tileset.optionalMembers =
      tileset.description.map .string := by simp [lookup?_optionalMembers]
  have hattribution : lookup? "attribution" tileset.optionalMembers =
      tileset.attribution.map .string := by simp [lookup?_optionalMembers]
  have hbounds : lookup? "bounds" tileset.optionalMembers =
      tileset.bounds.map fun bounds => .array (bounds.toList.map .float) := by
    simp [lookup?_optionalMembers]
  have hcenter : lookup? "center" tileset.optionalMembers =
      tileset.center.map fun center => .array (center.toList.map .float) := by
    simp [lookup?_optionalMembers]
  refine .object ?_
  constructor
  case name => exact memberOr_of_lookup? rfl (.string _)
  case description => exact memberOr_of_optional hdescription htext
  case attribution => exact memberOr_of_optional hattribution htext
  case low => exact @Member.found _ _ _ _ "minzoom" _ _ rfl rfl
  case high => exact @Member.found _ _ _ _ "maxzoom" _ _ rfl rfl
  case bounds =>
    exact memberOr_of_optional hbounds fun bounds => ⟨nofun, .array (forall₂_floats _)⟩
  case center =>
    exact memberOr_of_optional hcenter fun center => ⟨nofun, .array (forall₂_floats _)⟩
  case layers => exact memberOr_of_lookup? rfl (.array (forall₂_layers tileset.layers))

theorem isConsistent_described (h : tileset.IsConsistent) : tileset.described.IsConsistent := by
  obtain ⟨hrange, hlayers, hnames⟩ := h
  refine ⟨hrange, ?_, ?_⟩
  · intro layer hlayer
    obtain ⟨origin, horigin, rfl⟩ := List.mem_map.mp hlayer
    obtain ⟨hname, hproper, -⟩ := hlayers origin horigin
    exact ⟨hname, hproper, List.forall_mem_nil _⟩
  · have hsame : tileset.described.layers.map (·.name) = tileset.layers.map (·.name) := by
      rw [Tileset.described, List.map_map]
      rfl
    rwa [hsame]

end Members

section Extent

variable {tileset : Tileset} {layer : Layer} {members : List (String × Json)} {levels digits : Nat}

/-- The properties of an accepted layer, which stand below the object of the tileset, the array of
the layers, the object of the layer and their own. -/
def HasShallowProperties (layer : Layer) : Prop :=
  MembersWithin 196 Limits.document.integer layer.properties

theorem MembersWithin.firstMember? {names : List String} {member : String × Json}
    (h : MembersWithin levels digits members) (hfirst : firstMember? members names = some member) :
    member.2.IsWithin levels digits := by
  induction names with
  | nil => cases hfirst
  | cons name names ih =>
      rw [Schema.firstMember?] at hfirst
      split at hfirst
      · rename_i value hlookup
        obtain rfl := Option.some.inj hfirst
        exact h.lookup? hlookup
      · exact ih hfirst

theorem hasShallowProperties_of_describesLayer {value : Json}
    (h : IsRecord DescribesLayer value layer) (hvalue : value.IsWithin 198 Limits.document.integer) :
    HasShallowProperties layer := by
  obtain ⟨hlayer⟩ := h
  have hmembers := isWithin_object.mp hvalue
  have hproperties := hlayer.properties
  rw [HasShallowProperties]
  generalize layer.properties = properties at hproperties ⊢
  cases hproperties with
  | found hfirst hobject =>
      obtain ⟨_⟩ := hobject
      exact isWithin_object.mp (MembersWithin.firstMember? hmembers hfirst)
  | missing _ => exact List.forall_mem_nil _

theorem exists_mem_of_forall₂ {α β : Type} {R : α → β → Prop} {xs : List α} {ys : List β}
    (h : List.Forall₂ R xs ys) : ∀ y ∈ ys, ∃ x ∈ xs, R x y := by
  induction h with
  | nil => nofun
  | cons hfirst _ ih =>
      refine List.forall_mem_cons.mpr ⟨⟨_, List.mem_cons_self, hfirst⟩, fun y hy => ?_⟩
      obtain ⟨x, hx, hxy⟩ := ih y hy
      exact ⟨x, List.mem_cons_of_mem _ hx, hxy⟩

theorem hasShallowProperties_of_describesTileset {value : Json}
    (h : IsRecord DescribesTileset value tileset)
    (hvalue : value.IsWithin Limits.document.depth Limits.document.integer) :
    ∀ layer ∈ tileset.layers, HasShallowProperties layer := by
  obtain ⟨htileset⟩ := h
  have hmembers := @isWithin_object _ 199 _ |>.mp hvalue
  have hlayers := htileset.layers
  generalize tileset.layers = layers at hlayers ⊢
  cases hlayers with
  | found hfirst harray =>
      obtain ⟨hforall⟩ := harray
      have hitems := isWithin_array.mp (MembersWithin.firstMember? hmembers hfirst)
      intro layer hlayer
      obtain ⟨item, hitem, hdescribes⟩ := exists_mem_of_forall₂ hforall layer hlayer
      exact hasShallowProperties_of_describesLayer hdescribes (hitems item hitem)
  | missing _ => nofun

theorem Document.isWithin_of_value? {document : Document} {value : Json}
    (h : document.value? = some value) : value.isWithin Limits.document := by
  obtain ⟨text, -, hread⟩ := Option.bind_eq_some_iff.mp h
  cases hvalue : Json.read Limits.document text with
  | error fault =>
      rw [hvalue] at hread
      cases hread
  | ok found =>
      rw [hvalue] at hread
      obtain rfl := Option.some.inj hread
      exact isWithin_of_read hvalue

theorem Tileset.IsAccepted.exists_document (h : tileset.IsAccepted) :
    ∃ document, Tileset.ofDocument document = .ok tileset := by
  rcases h with ⟨text, h⟩ | ⟨bytes, h⟩
  · exact ⟨.text text, h⟩
  · exact ⟨.bytes bytes, h⟩

theorem Tileset.IsAccepted.hasShallowProperties (h : tileset.IsAccepted) :
    ∀ layer ∈ tileset.layers, HasShallowProperties layer := by
  obtain ⟨document, hdocument⟩ := h.exists_document
  obtain ⟨⟨value, hvalue, hdescribes⟩, -⟩ := Tileset.ofDocument_eq_ok.mp hdocument
  exact hasShallowProperties_of_describesTileset hdescribes
    (isWithin_iff.mp (Document.isWithin_of_value? hvalue))

theorem isWithin_zoom {zoom : Int} (hlow : lowestZoom ≤ zoom) (hhigh : zoom ≤ highestZoom)
    (levels : Nat) : (Json.int zoom).IsWithin levels Limits.document.integer := by
  have hzoom : zoom.natAbs < 10 ^ 2 := by
    rw [lowestZoom] at hlow
    rw [highestZoom] at hhigh
    omega
  exact (isWithin_int (by decide) hzoom).mono (Nat.zero_le _) (by decide)

theorem isWithin_floats (xs : List Binary64) (levels : Nat) :
    (Json.array (xs.map .float)).IsWithin (levels + 1) digits := by
  refine isWithin_array.mpr fun item hitem => ?_
  obtain ⟨x, -, rfl⟩ := List.mem_map.mp hitem
  exact isWithin_float _ _ x

theorem isWithin_layer (hlayer : layer.range.IsProper) (h : HasShallowProperties layer) :
    layer.tileJson.IsWithin 198 Limits.document.integer := by
  obtain ⟨hlow, hle, hhigh⟩ := hlayer
  refine isWithin_object.mpr ?_
  simp only [MembersWithin, List.forall_mem_cons, List.not_mem_nil, false_imp_iff, implies_true,
    and_true]
  exact ⟨isWithin_string _ _ _, isWithin_string _ _ _, isWithin_object.mpr h,
    isWithin_zoom hlow (Int.le_trans hle hhigh) _, isWithin_zoom (Int.le_trans hlow hle) hhigh _⟩

theorem membersWithin_optional {α : Type} {name : String} {f : α → Json} {found : Option α}
    (h : ∀ a, (f a).IsWithin levels digits) :
    MembersWithin levels digits (found.map fun a => (name, f a)).toList := by
  cases found with
  | none => nofun
  | some a => exact List.forall_mem_singleton.mpr (h a)

theorem membersWithin_append {others : List (String × Json)} :
    MembersWithin levels digits (members ++ others) ↔
      MembersWithin levels digits members ∧ MembersWithin levels digits others :=
  List.forall_mem_append

theorem membersWithin_optionalMembers (tileset : Tileset) :
    MembersWithin (levels + 1) digits tileset.optionalMembers := by
  simp only [Tileset.optionalMembers, membersWithin_append]
  exact ⟨⟨⟨membersWithin_optional fun text => isWithin_string _ _ text,
    membersWithin_optional fun text => isWithin_string _ _ text⟩,
    membersWithin_optional fun bounds => isWithin_floats _ _⟩,
    membersWithin_optional fun center => isWithin_floats _ _⟩

/-- **The document of an accepted tileset is not nested too deep to be read.** -/
theorem isWithin_tileJson (hconsistent : tileset.IsConsistent)
    (h : ∀ layer ∈ tileset.layers, HasShallowProperties layer) (url : String) :
    (tileset.tileJson url).isWithin Limits.document := by
  obtain ⟨⟨hlow, hle, hhigh⟩, hlayers, -⟩ := hconsistent
  have htiles : AreWithin 198 Limits.document.integer [.string (tileTemplate url)] :=
    List.forall_mem_singleton.mpr (isWithin_string _ _ _)
  have hitems : AreWithin 198 Limits.document.integer (tileset.layers.map Layer.tileJson) := by
    intro item hitem
    obtain ⟨layer, hlayer, rfl⟩ := List.mem_map.mp hitem
    exact isWithin_layer (hlayers layer hlayer).2.1 (h layer hlayer)
  refine isWithin_iff.mpr ((@isWithin_object _ 199 _).mpr ?_)
  refine membersWithin_append.mpr ⟨?_, membersWithin_optionalMembers tileset⟩
  simp only [MembersWithin, List.forall_mem_cons, List.not_mem_nil, false_imp_iff, implies_true,
    and_true]
  exact ⟨isWithin_string _ _ _, isWithin_string _ _ _, isWithin_string _ _ _,
    isWithin_array.mpr htiles, isWithin_zoom hlow (Int.le_trans hle hhigh) _,
    isWithin_zoom (Int.le_trans hlow hle) hhigh _, isWithin_array.mpr hitems⟩

end Extent

section SelfDescription

variable {tileset : Tileset}

/-- A document is read as any document with its value. -/
theorem Tileset.ofDocument_eq_ofValue {document : Document} {value : Json}
    (h : document.value? = some value) : Tileset.ofDocument document = Tileset.ofValue value := by
  rw [Tileset.ofDocument_eq, h, Tileset.ofValue, if_pos (Document.isWithin_of_value? h)]

/-- **What clients are told of is the tileset without its queries.** The TileJSON document of an
accepted tileset is accepted itself, and nothing is lost in it but the queries and the difference
between a description that is empty and one that is missing. -/
theorem Tileset.IsAccepted.isSelfDescribed (h : tileset.IsAccepted) (url : String) :
    tileset.IsSelfDescribed url := by
  have hconsistent := h.isConsistent
  have hjson : Tileset.ofJson (tileset.tileJson url) = .ok tileset.described :=
    (reads_tileset _ _).mpr
      ⟨describesTileset_tileJson tileset url, isConsistent_described hconsistent⟩
  have hvalue : Tileset.ofValue (tileset.tileJson url) = .ok tileset.described := by
    rw [Tileset.ofValue, if_pos (isWithin_tileJson hconsistent h.hasShallowProperties url)]
    exact hjson
  exact ⟨hvalue, fun document hdocument => (ofDocument_eq_ofValue hdocument).trans hvalue⟩

/-- A layer with properties and a query, without a description. -/
def basemapDocument : String :=
  "\x7b\"minzoom\":0,\"maxzoom\":14,\"bounds\":[-180,-85,180,85],\"vector_layers\":[" ++
    "\x7b\"id\":\"roads\",\"minzoom\":4,\"maxzoom\":14,\"properties\":\x7b\"lanes\":[2]\x7d," ++
      "\"queries\":[\x7b\"minzoom\":4,\"maxzoom\":9,\"sql\":\"\"\x7d]\x7d]\x7d"

/-- The name, the description and the number of the queries of a layer. -/
def Layer.summary (layer : Layer) : String × Option String × Nat :=
  (layer.name, layer.description, layer.queries.length)

theorem any_basemapDocument : (Tileset.ofText basemapDocument).toOption.any (fun tileset =>
    tileset.layers.map Layer.summary = [("roads", none, 1)]) = true := by
  decide +kernel

theorem isSelfDescribed_basemap : ∃ tileset, Tileset.ofText basemapDocument = .ok tileset ∧
    tileset.layers.map Layer.summary = [("roads", none, 1)] ∧
    tileset.IsAccepted ∧ tileset.IsSelfDescribed "https://tiles.example.com/" := by
  have hany := any_basemapDocument
  cases hparsed : Tileset.ofText basemapDocument with
  | error issues =>
      rw [hparsed] at hany
      cases hany
  | ok tileset =>
      rw [hparsed] at hany
      have haccepted : tileset.IsAccepted := .inl ⟨basemapDocument, hparsed⟩
      exact ⟨tileset, rfl, of_decide_eq_true hany, haccepted, haccepted.isSelfDescribed _⟩

end SelfDescription

end VectorTiles
