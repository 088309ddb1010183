import VectorTiles.Proofs.Copy.RoundTrip
import VectorTiles.Proofs.Geometry.Planar

/-!
# Writing a geometry and reading it again

**Rules.** Every part of a geometry is read with whatever stands behind it. The reference system is
read from the outermost header, members have none.

**Results.**

* `Yields`: a step reads just the bytes that it should.
* `yields_readHeader`, `yields_readContent`, `yields_readShape`: the parts of a geometry.
* `isRecovered`: the geometry in the plane is read, and its field takes the announced space.
-/

namespace VectorTiles
namespace Geometry

section Steps

variable {α β : Type} {step : Reading α} {next : α → Reading β} {a : α} {b : β}
  {front back : List UInt8}

/-- A step reads certain bytes as a value, whatever stands behind them. -/
def Yields (step : Reading α) (bytes : List UInt8) (a : α) : Prop :=
  ∀ rest, step ⟨bytes ++ rest, false⟩ = .ok (a, ⟨rest, false⟩)

theorem yields_pure (a : α) : Yields (pure a) [] a :=
  fun _ => rfl

theorem bind_apply (step : Reading α) (next : α → Reading β) (source : Source) :
    (step >>= next) source = step source >>= fun outcome => next outcome.1 outcome.2 :=
  rfl

theorem Yields.bind (hstep : Yields step front a) (hnext : Yields (next a) back b) :
    Yields (step >>= next) (front ++ back) b := by
  intro rest
  rw [List.append_assoc, bind_apply, hstep (back ++ rest)]
  exact hnext rest

theorem Yields.map (f : α → β) (h : Yields step front a) : Yields (f <$> step) front (f a) := by
  intro rest
  have hmap : (f <$> step) ⟨front ++ rest, false⟩ =
      (step ⟨front ++ rest, false⟩ >>= fun outcome => .ok (f outcome.1, outcome.2)) := rfl
  rw [hmap, h rest]
  rfl

/-- A step that reads nothing does not need any bytes behind the ones in front. -/
theorem Yields.bind_nil (hstep : Yields step front a) (hnext : Yields (next a) [] b) :
    Yields (step >>= next) front b := by
  have hbind := hstep.bind hnext
  rw [List.append_nil] at hbind
  exact hbind

theorem yields_repeated {γ : Type} {f : γ → List UInt8} {g : γ → α} {xs : List γ}
    (h : ∀ x ∈ xs, Yields step (f x) (g x)) :
    Yields (repeated step xs.length) (xs.flatMap f) (xs.map g) := by
  induction xs with
  | nil => exact yields_pure []
  | cons x xs ih =>
      obtain ⟨hx, hxs⟩ := List.forall_mem_cons.mp h
      exact hx.bind ((ih hxs).bind_nil (yields_pure _))

end Steps

section Words

variable {width n : Nat}

theorem yields_readBytes (bytes : List UInt8) : Yields (readBytes bytes.length) bytes bytes := by
  intro rest
  rw [readBytes, List.take_left, List.drop_left]
  exact if_pos rfl

theorem yields_readNat (h : n < Bytes.patterns width) :
    Yields (readNat width) (Bytes.littleEndian width n) n := by
  intro rest
  have hbytes := yields_readBytes (Bytes.littleEndian width n) rest
  rw [Bytes.length_littleEndian] at hbytes
  rw [readNat, bind_apply, hbytes]
  exact congrArg (fun m => Except.ok (m, (⟨rest, false⟩ : Source)))
    (Bytes.ofLittleEndian_littleEndian width n h)

theorem yields_readWord (h : n < Bytes.patterns 4) : Yields readWord (word n) n :=
  yields_readNat h

theorem yields_readNumber (x : Binary64) :
    Yields readNumber (Bytes.littleEndian 8 x.bits.toNat) x := by
  have hfits : x.bits.toNat < Bytes.patterns 8 := x.bits.toNat_lt
  have hread := (yields_readNat hfits).map fun n => (⟨UInt64.ofNat n⟩ : Binary64)
  rw [UInt64.ofNat_toNat] at hread
  exact hread

theorem yields_counted {α γ : Type} {step : Reading α} {f : γ → List UInt8} {g : γ → α}
    {xs : List γ} (hcount : IsCountable xs) (h : ∀ x ∈ xs, Yields step (f x) (g x)) :
    Yields (counted step) (word xs.length ++ xs.flatMap f) (xs.map g) :=
  (yields_readWord hcount).bind (yields_repeated h)

end Words

section Parts

theorem yields_readPosition (p : Position) :
    Yields (readPosition .plane) (encodePosition p) p.flat :=
  (yields_readNumber p.x).bind ((yields_readNumber p.y).bind_nil (yields_pure p.flat))

theorem yields_readPositions {positions : List Position} (h : IsCountable positions) :
    Yields (counted (readPosition .plane)) (encodePositions positions) (flatten positions) :=
  yields_counted h fun p _ => yields_readPosition p

theorem yields_readRings {rings : List (List Position)} (hcount : IsCountable rings)
    (h : ∀ ring ∈ rings, IsCountable ring) :
    Yields (counted (counted (readPosition .plane)))
      (word rings.length ++ rings.flatMap encodePositions) (rings.map flatten) :=
  yields_counted hcount fun ring hring => yields_readPositions (h ring hring)

/-- The number of the reference system behind a type word, if the word announces one. -/
def readSystem (w : Nat) : Reading Int :=
  if hasFlag w sridFlag then Bytes.ofPattern 4 <$> readWord else pure 0

/-- The ordinates that a type word announces. -/
def ordinatesOfWord (w : Nat) : Ordinates :=
  let range := w % 65536 / 1000
  ⟨hasFlag w heightFlag || range == 1 || range == 3,
    hasFlag w measureFlag || range == 2 || range == 3⟩

theorem yields_readHeader_word {w code : Nat} {bytes : List UInt8} {srid : Int}
    (hword : w < Bytes.patterns 4) (hcode : w % 65536 % 1000 = code)
    (hordinates : ordinatesOfWord w = .plane) (hsystem : Yields (readSystem w) bytes srid) :
    Yields readHeader (1 :: (word w ++ bytes)) ⟨code, .plane, srid⟩ := by
  have hmark : Yields (readNat 1) [1] 1 := @yields_readNat 1 1 (by decide)
  have horder : Yields (setOrder 1) [] () := fun _ => rfl
  let headerOf (srid : Int) : Header := ⟨w % 65536 % 1000, ordinatesOfWord w, srid⟩
  have hheader : headerOf srid = ⟨code, .plane, srid⟩ := by simp only [headerOf, hcode, hordinates]
  have hbehind := hsystem.map headerOf
  rw [hheader, readSystem] at hbehind
  refine hmark.bind (horder.bind ((yields_readWord hword).bind ?_))
  simp only
  split_ifs at hbehind ⊢
  · exact hbehind
  · exact hbehind

theorem yields_readSystem {w : Nat} {srid : Int} (hflag : hasFlag w sridFlag)
    (hsrid : Bytes.Fits 4 srid) :
    Yields (readSystem w) (Bytes.littleEndian 4 (Bytes.pattern 4 srid)) srid := by
  have hread := (yields_readWord (Bytes.pattern_lt 4 srid)).map (Bytes.ofPattern 4)
  rw [Bytes.ofPattern_pattern 4 srid hsrid] at hread
  rw [readSystem, if_pos hflag]
  exact hread

/-- The header of a shape, with or without a reference system. -/
theorem yields_readHeader {srid : Int} (kind : Kind) (hsrid : Bytes.Fits 4 srid) :
    Yields readHeader (encodeHeader kind srid) ⟨kind.code, .plane, srid⟩ := by
  rw [encodeHeader]
  split_ifs with hzero
  · subst hzero
    have hnone : Yields (readSystem kind.code) [] 0 := by
      rw [readSystem, if_neg (by cases kind <;> decide)]
      exact yields_pure 0
    have hheader := @yields_readHeader_word kind.code kind.code [] 0 (by cases kind <;> decide)
      (by cases kind <;> decide) (by cases kind <;> decide) hnone
    rw [List.append_nil] at hheader
    exact hheader
  · exact yields_readHeader_word (by cases kind <;> decide) (by cases kind <;> decide)
      (by cases kind <;> decide) (yields_readSystem (by cases kind <;> decide) hsrid)

end Parts

section Contents

variable {shape : Shape} {shapes : List Shape} {kind : CollectionKind} {srid : Int}

/-- What stands behind the header of a shape. -/
def Shape.content : Shape → List UInt8
  | .point _ position => encodePosition (position.getD nowhere)
  | .lineString _ positions | .linearRing _ positions | .circularString _ positions =>
    encodePositions positions
  | .polygon _ rings =>
    if lacksShell rings then word 0 else word rings.length ++ rings.flatMap encodePositions
  | .collection _ members => word members.length ++ Shape.encodeAll members

theorem encode_eq_header_append (shape : Shape) (srid : Int) :
    shape.encode srid = encodeHeader shape.kind srid ++ shape.content := by
  cases shape <;> rw [Shape.encode] <;> rfl

theorem yields_provided {condition : Bool} (h : condition) (shape : Shape) :
    Yields (provided condition shape) [] shape := by
  rw [provided, if_pos h]
  exact yields_pure shape

theorem yields_composed (h : kind.Allows shapes) :
    Yields (composed kind (Shape.planarAll shapes)) [] (.collection kind (Shape.planarAll shapes)) := by
  have hadmits := admits_map_planar h
  rw [← planarAll_eq_map] at hadmits
  have hmembers : (if kind = .curvePolygon ∧ Shape.areEmpty (Shape.planarAll shapes) then []
      else Shape.planarAll shapes) = Shape.planarAll shapes := by
    split_ifs with hempty
    · rw [areEmpty_planarAll] at hempty
      rw [h.eq_nil hempty.1 hempty.2, Shape.planarAll]
    · rfl
  rw [composed, hmembers]
  exact yields_provided hadmits _

theorem yields_readPoint {position : Option Position} (h : ∀ p ∈ position, p.IsSomewhere) :
    Yields (do
      let p ← readPosition .plane
      return .point .plane (if p.x.isNaN && p.y.isNaN then none else some p))
      (encodePosition (position.getD nowhere)) (Shape.point .plane (position.map Position.flat)) := by
  refine (yields_readPosition _).bind_nil ?_
  cases position with
  | none => exact yields_pure _
  | some p =>
      have hplace : (p.flat.x.isNaN && p.flat.y.isNaN) = false := h p rfl
      simp only [Option.getD_some, hplace]
      exact yields_pure _

theorem yields_readPolygon {rings : List (List Position)} (hpolygon : arePolygon rings)
    (hcount : ¬ lacksShell rings → IsCountable rings ∧ ∀ ring ∈ rings, IsCountable ring) :
    Yields (do
      let rings ← counted (counted (readPosition .plane))
      provided (arePolygon rings) (.polygon .plane rings))
      (if lacksShell rings then word 0 else word rings.length ++ rings.flatMap encodePositions)
      (.polygon .plane (planarRings rings)) := by
  have hplanar := yields_provided (arePolygon_planarRings hpolygon)
    (.polygon .plane (planarRings rings))
  rw [planarRings] at hplanar ⊢
  split_ifs at hplanar ⊢ with hshell
  · exact (@yields_readRings [] (by decide) (List.forall_mem_nil _)).bind_nil hplanar
  · obtain ⟨hrings, hring⟩ := hcount hshell
    exact (yields_readRings hrings hring).bind_nil hplanar

/-- **The content of a shape**, given how the members of a shape are read that is made of others. -/
theorem yields_readContent {members : Reading (List Shape)} (hformed : shape.IsFormed)
    (hwritable : shape.IsWritable) (hmembers : ∀ kind shapes, shape = .collection kind shapes →
      Yields members (word shapes.length ++ Shape.encodeAll shapes) (Shape.planarAll shapes)) :
    Yields (readContent ⟨shape.kind.code, .plane, srid⟩ members) shape.content shape.planar := by
  cases shape with
  | point ordinates position =>
      rw [Shape.IsWritable] at hwritable
      rw [Shape.planar]
      exact yields_readPoint hwritable
  | lineString ordinates positions =>
      rw [Shape.IsFormed, ← isLine_flatten] at hformed
      rw [Shape.IsWritable] at hwritable
      rw [Shape.planar]
      exact (yields_readPositions hwritable).bind_nil (yields_provided hformed _)
  | linearRing ordinates positions =>
      rw [Shape.IsFormed] at hformed
      have hline := isLine_of_isRing hformed
      rw [← isLine_flatten] at hline
      rw [Shape.IsWritable] at hwritable
      rw [Shape.planar]
      exact (yields_readPositions hwritable).bind_nil (yields_provided hline _)
  | circularString ordinates positions =>
      rw [Shape.IsFormed, ← isCircular_flatten] at hformed
      rw [Shape.IsWritable] at hwritable
      rw [Shape.planar]
      exact (yields_readPositions hwritable).bind_nil (yields_provided hformed _)
  | polygon ordinates rings =>
      rw [Shape.IsFormed] at hformed
      rw [Shape.IsWritable] at hwritable
      rw [Shape.planar]
      exact yields_readPolygon hformed hwritable
  | collection kind shapes =>
      rw [Shape.IsFormed] at hformed
      rw [Shape.planar]
      have hread := (hmembers kind shapes rfl).bind_nil (yields_composed hformed.1)
      cases kind <;> exact hread

end Contents

section Shapes

variable {shape : Shape} {srid : Int}

theorem length_le_of_mem {α : Type} {f : α → List UInt8} {xs : List α} {x : α} (h : x ∈ xs) :
    (f x).length ≤ (xs.flatMap f).length := by
  obtain ⟨before, after, rfl⟩ := List.append_of_mem h
  simp only [List.flatMap_append, List.flatMap_cons, List.length_append]
  omega

theorem length_encode_lt_of_mem {shapes : List Shape} {kind : CollectionKind}
    (h : shape ∈ shapes) (srid : Int) :
    (shape.encode 0).length < ((Shape.collection kind shapes).encode srid).length := by
  have hle := @length_le_of_mem _ (Shape.encode 0) shapes shape h
  rw [encode_eq_header_append (.collection kind shapes), Shape.content, encodeAll_eq_flatMap,
    List.length_append, List.length_append, word, Bytes.length_littleEndian]
  omega

/-- **A shape is read in the plane.** -/
theorem yields_readShape {fuel : Nat} (hformed : shape.IsFormed) (hwritable : shape.IsWritable)
    (hsrid : Bytes.Fits 4 srid) (hfuel : (shape.encode srid).length < fuel) :
    Yields (readShape fuel) (shape.encode srid) (srid, shape.planar) := by
  -- the fuel pays for the nesting: each member is shorter than the whole
  induction fuel generalizing shape srid with
  | zero => exact absurd hfuel (Nat.not_lt_zero _)
  | succ fuel ih =>
      rw [encode_eq_header_append]
      refine (yields_readHeader shape.kind hsrid).bind ((yields_readContent hformed hwritable
        fun kind shapes hshape => ?_).bind_nil (yields_pure _))
      subst hshape
      rw [Shape.IsFormed, areFormed_iff] at hformed
      rw [Shape.IsWritable, areWritable_iff] at hwritable
      rw [encodeAll_eq_flatMap, planarAll_eq_map]
      refine yields_counted hwritable.1 fun member hmember => ?_
      have hlength := @length_encode_lt_of_mem member shapes kind hmember srid
      exact (ih (hformed.2 member hmember) (hwritable.2 member hmember) (by decide)
        (by omega)).map Prod.snd

end Shapes

section Fields

variable {geometry : Geometry}

theorem isCurved_unringed (kind : Kind) : kind.unringed.isCurved = kind.isCurved := by
  cases kind <;> rfl

/-- Binary forms begin with the mark of their order, so that none is taken for hexadecimal text. -/
theorem plainBytes?_encode (geometry : Geometry) :
    plainBytes? geometry.encode = some geometry.encode := by
  have hmark : ∃ rest, geometry.encode = 1 :: rest := by
    rw [encode, encode_eq_header_append, encodeHeader]
    split_ifs
    · exact ⟨_, rfl⟩
    · exact ⟨_, rfl⟩
  obtain ⟨rest, hencode⟩ := hmark
  rw [hencode]
  rfl

/-- **What has been written is read in the plane.** -/
theorem decode_encode (h : geometry.IsSound) : decode geometry.encode = .ok geometry.planar := by
  have hread := yields_readShape h.isFormed h.isWritable h.fits (Nat.lt_succ_self _) []
  have hcurved : geometry.shape.planar.kind.isCurved = false := by
    rw [kind_planar, isCurved_unringed, h.isCurved_eq]
  rw [List.append_nil] at hread
  rw [decode, plainBytes?_encode]
  simp only [encode, hread, hcurved]
  rfl

theorem length_fieldBytes (geometry : Geometry) :
    (Copy.fieldBytes (some geometry.encode)).length = geometry.fieldLength := by
  rw [Copy.fieldBytes, List.length_append, Copy.signed, Bytes.length_bigEndian, fieldLength,
    lengthPrefix, Nat.add_comm]

theorem addition_geometry (writer : Copy.Writer) (geometry : Geometry) :
    writer.addition (.geometry (some geometry)) =
      Copy.nullable (fun g : Geometry => .ok g.encode) (some geometry) :=
  rfl

/-- A geometry is written if the length in front of its field has room for its length. -/
theorem addition_geometry_eq_ok {writer : Copy.Writer} {bytes : List UInt8} :
    writer.addition (.geometry (some geometry)) = .ok bytes ↔
      geometry.encode.length < 2 ^ 31 ∧ bytes = Copy.fieldBytes (some geometry.encode) := by
  have hencode : (fun g : Geometry => (.ok g.encode : Except Copy.Fault _)) geometry =
      .ok geometry.encode := rfl
  rw [addition_geometry]
  constructor
  · intro h
    obtain ⟨payload, hpayload, hlength⟩ := Copy.nullable_eq_ok h
    obtain rfl := Except.ok.inj hpayload
    exact ⟨hlength, Except.ok.inj (h.symm.trans (Copy.nullable_some hencode hlength))⟩
  · rintro ⟨hlength, rfl⟩
    exact Copy.nullable_some hencode hlength

theorem write_eq_ok {writer written : Copy.Writer} {item : Copy.Item} :
    writer.write item = .ok written ↔
      ∃ bytes, writer.addition item = .ok bytes ∧ writer.append item bytes = written := by
  rw [Copy.Writer.write]
  cases writer.addition item with
  | error fault => simp only [Except.map, reduceCtorEq, false_and, exists_false]
  | ok bytes => simp only [Except.map, Except.ok.injEq, exists_eq_left']

/-- What becomes of a geometry that is written. -/
structure IsRecovered (geometry : Geometry) : Prop where
  decode_eq : decode geometry.encode = .ok geometry.planar
  map_encode_eq : (decode geometry.encode).map encode = .ok geometry.encode
  /-- A field holds the geometry, unless the length in front has no room for its length. -/
  exists_write_iff : ∀ writer : Copy.Writer,
    (∃ written, writer.write (.geometry (some geometry)) = .ok written) ↔
      geometry.encode.length < 2 ^ 31
  /-- The field takes exactly the space that is announced. -/
  exists_bytes : ∀ writer written : Copy.Writer,
    writer.write (.geometry (some geometry)) = .ok written →
      ∃ bytes, written.stream = writer.stream ++ bytes ∧ bytes.length = geometry.fieldLength

/-- A geometry whose binary form is read in the plane is recovered: nothing else can go wrong. -/
theorem IsRecovered.of_decode_encode (h : decode geometry.encode = .ok geometry.planar) :
    geometry.IsRecovered where
  decode_eq := h
  map_encode_eq := by
    rw [h]
    exact congrArg Except.ok (encode_planar geometry)
  exists_write_iff writer := by
    constructor
    · rintro ⟨written, hwritten⟩
      obtain ⟨bytes, hbytes, -⟩ := write_eq_ok.mp hwritten
      exact (addition_geometry_eq_ok.mp hbytes).1
    · intro hlength
      exact ⟨_, write_eq_ok.mpr ⟨_, addition_geometry_eq_ok.mpr ⟨hlength, rfl⟩, rfl⟩⟩
  exists_bytes writer written hwritten := by
    obtain ⟨bytes, hbytes, rfl⟩ := write_eq_ok.mp hwritten
    obtain ⟨-, rfl⟩ := addition_geometry_eq_ok.mp hbytes
    exact ⟨_, rfl, length_fieldBytes geometry⟩

/-- **A geometry survives being written.** What is read is the geometry in the plane, in its reference
system; written again, it gives the same bytes. Its field takes the announced space. -/
theorem isRecovered (h : geometry.IsSound) : geometry.IsRecovered :=
  .of_decode_encode (decode_encode h)

/-- The position at two small whole numbers, above the plane. -/
def raised (x y : Int) : Position :=
  ⟨Binary64.ofInt x, Binary64.ofInt y, some (Binary64.ofInt 7), none⟩

/-- Rings among lines, a hole, and empty shapes at several levels. -/
def nested : Geometry where
  shape := .collection .mixed [
    .point ⟨true, false⟩ (some (raised 1 2)), .point .plane none,
    .collection .lines [
      .linearRing ⟨true, false⟩ [raised 0 0, raised 4 0, raised 0 4, raised 0 0],
      .lineString .plane []],
    .polygon ⟨true, false⟩ [[raised 0 0, raised 4 0, raised 0 4, raised 0 0],
      [raised 1 1, raised 2 1, raised 1 2, raised 1 1]],
    .polygon .plane [[], []],
    .collection .mixed [.collection .points [], .linearRing .plane []]]
  srid := -1

theorem isRecovered_nested : nested.IsSound ∧ nested.IsRecovered := by
  have hsound : nested.IsSound := ⟨by decide +kernel, by decide +kernel, by decide, by decide⟩
  exact ⟨hsound, isRecovered hsound⟩

end Fields

end Geometry
end VectorTiles
