import VectorTiles.Geometry.Outline
import VectorTiles.Proofs.Geometry.RoundTrip
import VectorTiles.Proofs.Partiality

/-!
# Geometries that are read or built

**Rules.** What is read has been counted by words, so it can be written again. What is built of an
outline is formed, but it may have more parts than a word can count, or points at two NaNs.

**Results.**

* `Ensures`: what holds of whatever a step reads.
* `isSound_of_decode`, `isRecovered_of_decode`: geometries that are read.
* `isWritable_of_length_lt`, `isRecovered_of_isFinite`: finite geometries that are not huge.
* `isFormed_of_shape`, `isRecovered_of_geometry`: geometries that are built of outlines.
-/

namespace VectorTiles
namespace Geometry

section Steps

variable {α β : Type} {step : Reading α} {next : α → Reading β} {P : α → Prop} {Q : β → Prop} {a : α}

/-- Whatever a step reads has a property. -/
def Ensures (step : Reading α) (P : α → Prop) : Prop :=
  ∀ source a rest, step source = .ok (a, rest) → P a

theorem ensures_pure (h : P a) : Ensures (pure a) P := by
  intro source other rest hread
  obtain ⟨rfl, -⟩ := Prod.mk.inj (Except.ok.inj hread)
  exact h

theorem ensures_malformed : Ensures malformed P :=
  fun _ _ _ hread => nomatch hread

theorem Ensures.bind (hstep : Ensures step P) (hnext : ∀ a, P a → Ensures (next a) Q) :
    Ensures (step >>= next) Q := by
  intro source b rest hread
  obtain ⟨⟨a, middle⟩, hfirst, hread⟩ := Partiality.bind_eq_ok.mp hread
  exact hnext a (hstep source a middle hfirst) middle b rest hread

theorem Ensures.map {f : α → β} (h : Ensures step P) (hf : ∀ a, P a → Q (f a)) :
    Ensures (f <$> step) Q :=
  h.bind fun a ha => ensures_pure (hf a ha)

theorem ensures_trivial (step : Reading α) : Ensures step fun _ => True :=
  fun _ _ _ _ => trivial

theorem ensures_repeated (h : Ensures step P) (count : Nat) :
    Ensures (repeated step count) fun as => as.length = count ∧ ∀ a ∈ as, P a := by
  induction count with
  | zero => exact ensures_pure ⟨rfl, nofun⟩
  | succ count ih =>
      refine h.bind fun a ha => ih.bind fun as has => ensures_pure ⟨?_, ?_⟩
      · rw [List.length_cons, has.1]
      · exact List.forall_mem_cons.mpr ⟨ha, has.2⟩

end Steps

section Words

variable {α : Type} {step : Reading α} {P : α → Prop}

theorem ofLittleEndian_lt (bytes : List UInt8) :
    Bytes.ofLittleEndian bytes < Bytes.patterns bytes.length := by
  induction bytes with
  | nil => decide
  | cons b rest ih =>
      have hpatterns : Bytes.patterns (rest.length + 1) = 256 * Bytes.patterns rest.length :=
        Nat.pow_succ'
      have hbyte : b.toNat < 256 := b.toNat_lt
      rw [Bytes.ofLittleEndian, List.length_cons, hpatterns]
      omega

theorem ofBigEndian_lt (bytes : List UInt8) :
    Bytes.ofBigEndian bytes < Bytes.patterns bytes.length := by
  rw [Bytes.ofBigEndian, ← List.length_reverse]
  exact ofLittleEndian_lt bytes.reverse

theorem fits_ofPattern {width n : Nat} (h : n < Bytes.patterns width) :
    Bytes.Fits width (Bytes.ofPattern width n) := by
  rw [Bytes.ofPattern, Bytes.Fits]
  split_ifs
  · omega
  · omega

theorem ensures_readBytes (count : Nat) :
    Ensures (readBytes count) fun bytes => bytes.length = count := by
  intro source bytes rest hread
  rw [readBytes] at hread
  split_ifs at hread with hlength
  obtain ⟨rfl, -⟩ := Prod.mk.inj (Except.ok.inj hread)
  exact hlength

theorem ensures_readNat (width : Nat) : Ensures (readNat width) (· < Bytes.patterns width) := by
  refine (ensures_readBytes width).bind fun bytes hlength =>
    (ensures_trivial get).bind fun source _ => ensures_pure ?_
  subst hlength
  split_ifs
  · exact ofBigEndian_lt bytes
  · exact ofLittleEndian_lt bytes

theorem ensures_counted (h : Ensures step P) :
    Ensures (counted step) fun as => IsCountable as ∧ ∀ a ∈ as, P a := by
  refine (ensures_readNat 4).bind fun count hcount => ?_
  intro source as rest hread
  obtain ⟨hlength, hall⟩ := ensures_repeated h count source as rest hread
  rw [IsCountable, hlength]
  exact ⟨hcount, hall⟩

theorem ensures_readHeader : Ensures readHeader fun header => Bytes.Fits 4 header.srid := by
  refine (ensures_trivial _).bind fun mark _ => (ensures_trivial _).bind fun _ _ =>
    (ensures_trivial _).bind fun word _ => ?_
  simp only
  split_ifs
  · exact (Ensures.map (ensures_readNat 4) fun n => fits_ofPattern).bind fun srid hsrid =>
      ensures_pure hsrid
  · have hzero : Bytes.Fits 4 0 := by decide
    exact ensures_pure hzero

end Words

section Shapes

variable {shapes : List Shape} {kind : CollectionKind}

/-- A shape that is formed and can be written. -/
def Shape.IsRead (shape : Shape) : Prop :=
  shape.IsFormed ∧ shape.IsWritable

theorem ensures_provided {condition : Bool} {shape : Shape} (h : condition → shape.IsRead) :
    Ensures (provided condition shape) Shape.IsRead := by
  rw [provided]
  split_ifs with hcondition
  · exact ensures_pure (h hcondition)
  · exact ensures_malformed

theorem unringed_of_mem (kind : CollectionKind) :
    ∀ member ∈ kind.memberKinds, member.unringed = member := by
  cases kind <;> decide

/-- Members that are admitted are allowed, unless none of them should be there. -/
theorem allows_of_admits (h : kind.admits shapes)
    (hempty : ¬ (kind = .curvePolygon ∧ Shape.areEmpty shapes)) : kind.Allows shapes := by
  obtain ⟨hkinds, hrule⟩ := (Bool.and_eq_true _ _).mp h
  constructor
  case mem_memberKinds =>
    rw [Bool.or_eq_true, decide_eq_true_eq, List.all_eq_true] at hkinds
    refine hkinds.imp id fun hall member hmember => ?_
    have hmem : member.kind ∈ kind.memberKinds := by simpa using hall member hmember
    rwa [unringed_of_mem kind _ hmem]
  case areContiguous =>
    rintro rfl
    exact hrule
  case areCurvedRings =>
    rintro rfl
    exact hrule
  case eq_nil => exact fun hkind hnone => absurd ⟨hkind, hnone⟩ hempty

theorem allows_nil : CollectionKind.curvePolygon.Allows [] := by
  decide

theorem ensures_composed (hcount : IsCountable shapes) (h : ∀ shape ∈ shapes, shape.IsRead) :
    Ensures (composed kind shapes) Shape.IsRead := by
  refine ensures_provided fun hadmits => ?_
  rw [Shape.IsRead, Shape.IsFormed, Shape.IsWritable, areFormed_iff, areWritable_iff]
  split_ifs with hempty
  · rw [hempty.1]
    exact ⟨⟨allows_nil, List.forall_mem_nil _⟩, by decide, List.forall_mem_nil _⟩
  · exact ⟨⟨allows_of_admits hadmits hempty, fun shape hshape => (h shape hshape).1⟩, hcount,
      fun shape hshape => (h shape hshape).2⟩

theorem isRead_point (ordinates : Ordinates) (p : Position) :
    (Shape.point ordinates (if p.x.isNaN && p.y.isNaN then none else some p)).IsRead := by
  rw [Shape.IsRead, Shape.IsFormed, Shape.IsWritable]
  refine ⟨trivial, ?_⟩
  split_ifs with hplace
  · rintro q ⟨⟩
  · rintro q ⟨⟩
    exact Bool.eq_false_iff.mpr hplace

/-- The content behind any header, provided that members are read as they should be. -/
theorem ensures_readContent {members : Reading (List Shape)} (header : Header)
    (h : Ensures members fun shapes => IsCountable shapes ∧ ∀ shape ∈ shapes, shape.IsRead) :
    Ensures (readContent header members) Shape.IsRead := by
  have hcomposed (kind : CollectionKind) : Ensures (members >>= composed kind) Shape.IsRead :=
    h.bind fun shapes hshapes => ensures_composed hshapes.1 hshapes.2
  have hpositions := ensures_counted (ensures_trivial (readPosition header.ordinates))
  rw [readContent]
  split
  · exact (ensures_trivial _).bind fun p _ => ensures_pure (isRead_point _ p)
  · refine hpositions.bind fun ps hps => ensures_provided fun hline => ?_
    rw [Shape.IsRead, Shape.IsFormed, Shape.IsWritable]
    exact ⟨hline, hps.1⟩
  · refine (ensures_counted hpositions).bind fun rings hrings => ensures_provided fun hpolygon => ?_
    rw [Shape.IsRead, Shape.IsFormed, Shape.IsWritable]
    exact ⟨hpolygon, fun _ => ⟨hrings.1, fun ring hring => (hrings.2 ring hring).1⟩⟩
  · exact hcomposed .points
  · exact hcomposed .lines
  · exact hcomposed .polygons
  · exact hcomposed .mixed
  · refine hpositions.bind fun ps hps => ensures_provided fun hcircular => ?_
    rw [Shape.IsRead, Shape.IsFormed, Shape.IsWritable]
    exact ⟨hcircular, hps.1⟩
  · exact hcomposed .compoundCurve
  · exact hcomposed .curvePolygon
  · exact hcomposed .curves
  · exact hcomposed .surfaces
  · exact ensures_malformed

theorem ensures_readShape (fuel : Nat) :
    Ensures (readShape fuel) fun outcome => Bytes.Fits 4 outcome.1 ∧ outcome.2.IsRead := by
  induction fuel with
  | zero => exact ensures_malformed
  | succ fuel ih =>
      have hmembers := ensures_counted (ih.map fun outcome houtcome => houtcome.2)
      exact ensures_readHeader.bind fun header hheader =>
        (ensures_readContent header hmembers).bind fun shape hshape =>
          ensures_pure ⟨hheader, hshape⟩

end Shapes

section Decoding

variable {data : List UInt8} {geometry : Geometry}

/-- **Whatever is read can be written and read again.** -/
theorem isSound_of_decode (h : decode data = .ok geometry) : geometry.IsSound := by
  rw [decode] at h
  split at h
  · cases h
  · split at h
    · cases h
    · rename_i srid shape rest hread
      obtain ⟨hfits, hformed, hwritable⟩ := ensures_readShape _ _ _ _ hread
      split_ifs at h with hcurved
      obtain rfl := Except.ok.inj h
      exact ⟨hformed, hwritable, Bool.eq_false_iff.mpr hcurved, hfits⟩

/-- From the first reading on, only the plane counts. -/
theorem isRecovered_of_decode (h : decode data = .ok geometry) : geometry.IsRecovered :=
  .of_decode_encode (decode_encode (isSound_of_decode h))

end Decoding

section Lengths

theorem length_le_flatMap {α : Type} {f : α → List UInt8} {xs : List α}
    (h : ∀ x ∈ xs, 1 ≤ (f x).length) : xs.length ≤ (xs.flatMap f).length := by
  induction xs with
  | nil => exact Nat.le_refl 0
  | cons x xs ih =>
      obtain ⟨hx, hxs⟩ := List.forall_mem_cons.mp h
      have hle := ih hxs
      rw [List.flatMap_cons, List.length_append, List.length_cons]
      omega

theorem length_encodePositions (positions : List Position) :
    (encodePositions positions).length = 4 + 16 * positions.length := by
  have hposition (p : Position) : (encodePosition p).length = 16 := by
    rw [encodePosition, List.length_append, Bytes.length_littleEndian, Bytes.length_littleEndian]
  rw [encodePositions, List.length_append, word, Bytes.length_littleEndian, List.length_flatMap]
  simp only [hposition, List.map_const', List.sum_replicate_nat]
  omega

theorem length_encode_pos (shape : Shape) : 1 ≤ (shape.encode 0).length := by
  rw [encode_eq_header_append, encodeHeader, if_pos rfl, List.cons_append, List.length_cons]
  omega

theorem length_content_le (shape : Shape) (srid : Int) :
    shape.content.length ≤ (shape.encode srid).length := by
  rw [encode_eq_header_append, List.length_append]
  omega

mutual

/-- Everything that is counted takes space, so nothing that is written is too long for a count unless
the whole is. -/
theorem isWritable_of_length_content_lt : (shape : Shape) → shape.IsFinite →
    shape.content.length < Bytes.patterns 4 → shape.IsWritable
  | .point _ position, hfinite, _ => by
      rw [Shape.IsFinite] at hfinite
      rw [Shape.IsWritable]
      exact fun p hp => (hfinite p hp).isSomewhere
  | .lineString _ positions, _, hlength | .linearRing _ positions, _, hlength
  | .circularString _ positions, _, hlength => by
      rw [Shape.content, length_encodePositions] at hlength
      rw [Shape.IsWritable, IsCountable]
      omega
  | .polygon _ rings, _, hlength => by
      rw [Shape.IsWritable]
      intro hshell
      rw [Shape.content, if_neg hshell, List.length_append] at hlength
      constructor
      · have hle := @length_le_flatMap _ encodePositions rings fun ring _ => by
          rw [length_encodePositions]
          omega
        rw [IsCountable]
        omega
      · intro ring hring
        have hle := @length_le_of_mem _ encodePositions rings ring hring
        rw [length_encodePositions] at hle
        rw [IsCountable]
        omega
  | .collection _ members, hfinite, hlength => by
      rw [Shape.IsFinite] at hfinite
      rw [Shape.content, List.length_append] at hlength
      rw [Shape.IsWritable]
      constructor
      · have hle := @length_le_flatMap _ (Shape.encode 0) members fun member _ =>
          length_encode_pos member
        rw [← encodeAll_eq_flatMap] at hle
        rw [IsCountable]
        omega
      · exact areWritable_of_length_encodeAll_lt members hfinite (by omega)

theorem areWritable_of_length_encodeAll_lt : (shapes : List Shape) → Shape.AreFinite shapes →
    (Shape.encodeAll shapes).length < Bytes.patterns 4 → Shape.AreWritable shapes
  | [], _, _ => trivial
  | shape :: shapes, hfinite, hlength => by
      rw [Shape.encodeAll, List.length_append] at hlength
      have hle := length_content_le shape 0
      exact ⟨isWritable_of_length_content_lt shape hfinite.1 (by omega),
        areWritable_of_length_encodeAll_lt shapes hfinite.2 (by omega)⟩

end

variable {geometry : Geometry}

/-- **Only huge geometries cannot be counted**: whatever is finite and has room in a field can be
written. -/
theorem isWritable_of_length_lt (hfinite : geometry.shape.IsFinite)
    (hlength : geometry.encode.length < Bytes.patterns 4) : geometry.shape.IsWritable :=
  isWritable_of_length_content_lt geometry.shape hfinite
    (Nat.lt_of_le_of_lt (length_content_le geometry.shape geometry.srid) hlength)

/-- **A formed geometry at finite positions is recovered**, unless it is huge. -/
theorem isRecovered_of_isFinite (hformed : geometry.shape.IsFormed)
    (hstraight : geometry.shape.kind.isCurved = false) (hfits : Bytes.Fits 4 geometry.srid)
    (hfinite : geometry.shape.IsFinite) (hlength : geometry.encode.length < Bytes.patterns 4) :
    geometry.IsRecovered := by
  have hwritable := isWritable_of_length_lt hfinite hlength
  exact .of_decode_encode (decode_encode ⟨hformed, hwritable, hstraight, hfits⟩)

end Lengths

section Building

open Partiality

variable {places : List (List Binary64)} {positions : List Position}
  {rings : List (List (List Binary64))} {shape : Shape}

/-- A shape of some kind that is formed. -/
def Shape.IsBuilt (shape : Shape) (kind : Kind) : Prop :=
  shape.IsFormed ∧ shape.kind = kind

theorem Shape.IsBuilt.isStraight {kind : Kind} (h : shape.IsBuilt kind)
    (hkind : kind.isCurved = false) : shape.IsFormed ∧ shape.kind.isCurved = false := by
  refine ⟨h.1, ?_⟩
  rw [h.2, hkind]

theorem isLine_of_checkedLine (h : checkedLine places = .ok positions) : isLine positions := by
  obtain ⟨found, -, h⟩ := bind_eq_ok.mp h
  split_ifs at h with hlength
  obtain rfl := Except.ok.inj h
  exact bne_iff_ne.mpr hlength

theorem isRing_of_checkedRing (h : checkedRing places = .ok positions) : isRing positions := by
  obtain ⟨found, -, h⟩ := bind_eq_ok.mp h
  simp only at h
  split_ifs at h with hempty hlength hclosed
  · obtain rfl := Except.ok.inj h
    rfl
  · obtain rfl := Except.ok.inj h
    simp only [isRing, Bool.or_eq_true, Bool.and_eq_true, decide_eq_true_eq]
    simp only [Bool.not_eq_true, Bool.not_eq_false'] at hclosed
    exact .inr ⟨by omega, hclosed⟩

theorem arePolygon_of_checkedRings {found : List (List Position)}
    (h : checkedRings rings = .ok found) : arePolygon found := by
  obtain ⟨checked, hchecked, h⟩ := bind_eq_ok.mp h
  have hrings := forall_of_mapM_eq_ok hchecked fun ring _ _ => isRing_of_checkedRing
  split_ifs at h with hshell
  obtain rfl := Except.ok.inj h
  rw [arePolygon, Bool.and_eq_true, List.all_eq_true, Bool.or_eq_true, List.all_eq_true]
  refine ⟨hrings, ?_⟩
  simp only [Bool.and_eq_true, List.any_eq_true, not_and, not_exists, Bool.not_eq_true',
    Bool.not_eq_false] at hshell
  cases hlacks : lacksShell checked with
  | false => exact .inl rfl
  | true => exact .inr fun ring hring => hshell hlacks ring hring

theorem isBuilt_of_pointShape {place : List Binary64} (h : pointShape place = .ok shape) :
    shape.IsBuilt .point := by
  rw [pointShape] at h
  split_ifs at h
  · obtain rfl := Except.ok.inj h
    exact ⟨by rw [Shape.IsFormed]; trivial, rfl⟩
  · obtain ⟨position, -, h⟩ := bind_eq_ok.mp h
    obtain rfl := Except.ok.inj h
    exact ⟨by rw [Shape.IsFormed]; trivial, rfl⟩

theorem isBuilt_of_lineShape (h : lineShape places = .ok shape) : shape.IsBuilt .lineString := by
  obtain ⟨positions, hpositions, h⟩ := bind_eq_ok.mp h
  obtain rfl := Except.ok.inj h
  rw [Shape.IsBuilt, Shape.IsFormed]
  exact ⟨isLine_of_checkedLine hpositions, rfl⟩

theorem isBuilt_of_ringShape (h : ringShape places = .ok shape) : shape.IsBuilt .linearRing := by
  obtain ⟨positions, hpositions, h⟩ := bind_eq_ok.mp h
  obtain rfl := Except.ok.inj h
  rw [Shape.IsBuilt, Shape.IsFormed]
  exact ⟨isRing_of_checkedRing hpositions, rfl⟩

theorem isBuilt_of_polygonShape (h : polygonShape rings = .ok shape) : shape.IsBuilt .polygon := by
  obtain ⟨found, hfound, h⟩ := bind_eq_ok.mp h
  obtain rfl := Except.ok.inj h
  rw [Shape.IsBuilt, Shape.IsFormed]
  exact ⟨arePolygon_of_checkedRings hfound, rfl⟩

theorem eq_ok_of_fullShape {found : Except OutlineFault Shape} (h : fullShape found = .ok shape) :
    found = .ok shape := by
  obtain ⟨other, hother, h⟩ := bind_eq_ok.mp h
  split_ifs at h
  obtain rfl := Except.ok.inj h
  exact hother

/-- A collection of built shapes of the one kind that its members may have. -/
theorem isBuilt_collection {kind : CollectionKind} {member : Kind} {shapes : List Shape}
    (hmember : member.unringed ∈ kind.memberKinds)
    (hkind : kind ≠ .compoundCurve ∧ kind ≠ .curvePolygon)
    (h : ∀ shape ∈ shapes, shape.IsBuilt member) : (Shape.collection kind shapes).IsFormed := by
  rw [Shape.IsFormed, areFormed_iff]
  refine ⟨⟨.inr fun shape hshape => ?_, fun hcurve => absurd hcurve hkind.1,
    fun hcurve => absurd hcurve hkind.2, fun hcurve => absurd hcurve hkind.2⟩,
    fun shape hshape => (h shape hshape).1⟩
  rw [(h shape hshape).2]
  exact hmember

mutual

/-- **What is built is formed**, and straight at its outermost level. -/
theorem isFormed_of_shape : (outline : Outline) → (shape : Shape) → outline.shape = .ok shape →
    shape.IsFormed ∧ shape.kind.isCurved = false
  | .point place, shape, h => by
      obtain ⟨numbers, -, h⟩ := bind_eq_ok.mp h
      exact (isBuilt_of_pointShape h).isStraight rfl
  | .line places, shape, h => by
      obtain ⟨numbers, -, h⟩ := bind_eq_ok.mp h
      exact (isBuilt_of_lineShape h).isStraight rfl
  | .ring places, shape, h => by
      obtain ⟨numbers, -, h⟩ := bind_eq_ok.mp h
      exact (isBuilt_of_ringShape h).isStraight rfl
  | .polygon rings, shape, h => by
      obtain ⟨numbers, -, h⟩ := bind_eq_ok.mp h
      exact (isBuilt_of_polygonShape h).isStraight rfl
  | .points places, shape, h => by
      obtain ⟨numbers, -, h⟩ := bind_eq_ok.mp h
      obtain ⟨shapes, hshapes, h⟩ := bind_eq_ok.mp h
      obtain rfl := Except.ok.inj h
      exact ⟨isBuilt_collection (by decide) (by decide) (forall_of_mapM_eq_ok hshapes
        fun _ _ _ hshape => isBuilt_of_pointShape (eq_ok_of_fullShape hshape)), rfl⟩
  | .lines parts, shape, h => by
      obtain ⟨numbers, -, h⟩ := bind_eq_ok.mp h
      obtain ⟨shapes, hshapes, h⟩ := bind_eq_ok.mp h
      obtain rfl := Except.ok.inj h
      exact ⟨isBuilt_collection (by decide) (by decide) (forall_of_mapM_eq_ok hshapes
        fun _ _ _ hshape => isBuilt_of_lineShape (eq_ok_of_fullShape hshape)), rfl⟩
  | .polygons parts, shape, h => by
      obtain ⟨numbers, -, h⟩ := bind_eq_ok.mp h
      obtain ⟨shapes, hshapes, h⟩ := bind_eq_ok.mp h
      obtain rfl := Except.ok.inj h
      have hbuilt := forall_of_mapM_eq_ok hshapes fun _ _ _ hshape => isBuilt_of_polygonShape hshape
      exact ⟨isBuilt_collection (by decide) (by decide)
        fun shape hshape => hbuilt shape (List.mem_of_mem_filter hshape), rfl⟩
  | .collection members, shape, h => by
      obtain ⟨shapes, hshapes, h⟩ := bind_eq_ok.mp h
      obtain rfl := Except.ok.inj h
      rw [Shape.IsFormed]
      exact ⟨⟨⟨.inl rfl, nofun, nofun, nofun⟩, areFormed_of_shapes members shapes hshapes⟩, rfl⟩
  | .inSystem srid outline, shape, h => by
      obtain ⟨found, hfound, h⟩ := bind_eq_ok.mp h
      obtain ⟨done, -, h⟩ := bind_eq_ok.mp h
      obtain rfl := Except.ok.inj h
      exact isFormed_of_shape outline found hfound

theorem areFormed_of_shapes : (outlines : List Outline) → (shapes : List Shape) →
    Outline.shapes outlines = .ok shapes → Shape.AreFormed shapes
  | [], shapes, h => by
      obtain rfl := Except.ok.inj h
      trivial
  | outline :: outlines, shapes, h => by
      obtain ⟨first, hfirst, h⟩ := bind_eq_ok.mp h
      obtain ⟨rest, hrest, h⟩ := bind_eq_ok.mp h
      obtain rfl := Except.ok.inj h
      exact ⟨(isFormed_of_shape outline first hfirst).1, areFormed_of_shapes outlines rest hrest⟩

end

/-- A geometry that is built of an outline can be written and read again, unless it is too large or
has a point at two NaNs. -/
theorem isSound_of_geometry {outline : Outline} {srid : Int} {geometry : Geometry}
    (h : outline.geometry srid = .ok geometry) (hwritable : geometry.shape.IsWritable) :
    geometry.IsSound := by
  obtain ⟨shape, hshape, h⟩ := bind_eq_ok.mp h
  obtain ⟨done, hsystem, h⟩ := bind_eq_ok.mp h
  obtain rfl := Except.ok.inj h
  obtain ⟨hformed, hstraight⟩ := isFormed_of_shape outline shape hshape
  have hpatterns : Bytes.patterns 4 = 0x100000000 := rfl
  rw [checkSystem] at hsystem
  split_ifs at hsystem with hsrid
  have hfits : Bytes.Fits 4 srid := by
    rw [Bytes.Fits, hpatterns]
    omega
  exact ⟨hformed, hwritable, hstraight, hfits⟩

/-- **Whatever is built at finite positions is recovered**, in any reference system that it can be
built in, unless it is huge. -/
theorem isRecovered_of_geometry {outline : Outline} {srid : Int} {geometry : Geometry}
    (h : outline.geometry srid = .ok geometry) (hfinite : geometry.shape.IsFinite)
    (hlength : geometry.encode.length < Bytes.patterns 4) : geometry.IsRecovered := by
  have hwritable := isWritable_of_length_lt hfinite hlength
  exact .of_decode_encode (decode_encode (isSound_of_geometry h hwritable))

end Building

end Geometry
end VectorTiles
