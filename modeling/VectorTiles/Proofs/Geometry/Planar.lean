import Mathlib.Tactic.SplitIfs
import VectorTiles.Geometry.Decoding

/-!
# Geometries in the plane

What is left of a geometry when it is written and read again: its positions lose their heights and
measures, and its rings count as lines.

**Rules.** A polygon without a shell has no ring. A shape is formed when its parts have as many
positions, and members of such kinds, as they must have. It is writable when there are not more of
them than a count can tell, and when no point stands at two NaNs, which would be read as none. No
finite shape stands there.

**Results.**

* `Shape.planar`, `Geometry.planar`: a geometry in the plane.
* `Shape.IsFormed`, `Shape.IsWritable`, `IsSound`: geometries that can be written and read again.
* `Shape.IsFinite`: shapes at finite positions.
* `admits_map_planar`: members that are allowed are so in the plane.
* `encode_planar`: the binary form of a geometry is that of the geometry in the plane.
-/

namespace VectorTiles
namespace Geometry

section Definitions

/-- A ring counts as a line. -/
def Kind.unringed : Kind → Kind
  | linearRing => lineString
  | kind => kind

/-- Positions without heights and measures. -/
def flatten (positions : List Position) : List Position :=
  positions.map Position.flat

/-- The rings of a polygon in the plane. -/
def planarRings (rings : List (List Position)) : List (List Position) :=
  if lacksShell rings then [] else rings.map flatten

mutual

/-- A shape in the plane. -/
def Shape.planar : Shape → Shape
  | .point _ position => .point .plane (position.map Position.flat)
  | .lineString _ positions | .linearRing _ positions => .lineString .plane (flatten positions)
  | .circularString _ positions => .circularString .plane (flatten positions)
  | .polygon _ rings => .polygon .plane (planarRings rings)
  | .collection kind members => .collection kind (planarAll members)

def Shape.planarAll : List Shape → List Shape
  | [] => []
  | shape :: shapes => shape.planar :: planarAll shapes

end

def Position.IsFinite (p : Position) : Prop :=
  p.x.isFinite ∧ p.y.isFinite

mutual

/-- A shape at finite positions, down to its last member. -/
def Shape.IsFinite : Shape → Prop
  | .point _ position => ∀ p ∈ position, p.IsFinite
  | .lineString _ positions | .linearRing _ positions | .circularString _ positions =>
    ∀ p ∈ positions, p.IsFinite
  | .polygon _ rings => ∀ ring ∈ rings, ∀ p ∈ ring, p.IsFinite
  | .collection _ members => Shape.AreFinite members

def Shape.AreFinite : List Shape → Prop
  | [] => True
  | shape :: shapes => shape.IsFinite ∧ AreFinite shapes

end

/-- A position that is not taken for none. -/
def Position.IsSomewhere (p : Position) : Prop :=
  (p.x.isNaN && p.y.isNaN) = false

/-- A list whose length can be told by a count. -/
def IsCountable {α : Type} (xs : List α) : Prop :=
  xs.length < Bytes.patterns 4

/-- The members that a shape can have which is made of others. -/
structure CollectionKind.Allows (kind : CollectionKind) (members : List Shape) : Prop where
  mem_memberKinds : kind = .mixed ∨ ∀ member ∈ members, member.kind.unringed ∈ kind.memberKinds
  areContiguous : kind = .compoundCurve → areContiguous (members.map Shape.linePositions)
  areCurvedRings : kind = .curvePolygon → areCurvedRings members
  eq_nil : kind = .curvePolygon → Shape.areEmpty members → members = []

mutual

/-- A shape whose parts are as they must be, down to its last member. -/
def Shape.IsFormed : Shape → Prop
  | .point _ _ => True
  | .lineString _ positions => isLine positions
  | .linearRing _ positions => isRing positions
  | .circularString _ positions => isCircular positions
  | .polygon _ rings => arePolygon rings
  | .collection kind members => kind.Allows members ∧ Shape.AreFormed members

def Shape.AreFormed : List Shape → Prop
  | [] => True
  | shape :: shapes => shape.IsFormed ∧ AreFormed shapes

end

mutual

/-- A shape whose points and counts can be told by bytes, down to its last member. -/
def Shape.IsWritable : Shape → Prop
  | .point _ position => ∀ p ∈ position, p.IsSomewhere
  | .lineString _ positions | .linearRing _ positions | .circularString _ positions =>
    IsCountable positions
  | .polygon _ rings => ¬ lacksShell rings → IsCountable rings ∧ ∀ ring ∈ rings, IsCountable ring
  | .collection _ members => IsCountable members ∧ Shape.AreWritable members

def Shape.AreWritable : List Shape → Prop
  | [] => True
  | shape :: shapes => shape.IsWritable ∧ AreWritable shapes

end

end Definitions

section Decisions

instance (p : Position) : Decidable p.IsSomewhere :=
  inferInstanceAs (Decidable (_ = false))

instance {α : Type} (xs : List α) : Decidable (IsCountable xs) :=
  inferInstanceAs (Decidable (_ < _))

instance (kind : CollectionKind) (members : List Shape) : Decidable (kind.Allows members) :=
  decidable_of_iff
    ((kind = .mixed ∨ ∀ member ∈ members, member.kind.unringed ∈ kind.memberKinds) ∧
      (kind = .compoundCurve → areContiguous (members.map Shape.linePositions)) ∧
      (kind = .curvePolygon → areCurvedRings members) ∧
      (kind = .curvePolygon → Shape.areEmpty members → members = []))
    ⟨fun ⟨hkinds, hcurve, hrings, hempty⟩ => ⟨hkinds, hcurve, hrings, hempty⟩,
      fun h => ⟨h.mem_memberKinds, h.areContiguous, h.areCurvedRings, h.eq_nil⟩⟩

mutual

instance decideFormed : (shape : Shape) → Decidable shape.IsFormed
  | .point _ _ => .isTrue trivial
  | .lineString _ positions => inferInstanceAs (Decidable (isLine positions))
  | .linearRing _ positions => inferInstanceAs (Decidable (isRing positions))
  | .circularString _ positions => inferInstanceAs (Decidable (isCircular positions))
  | .polygon _ rings => inferInstanceAs (Decidable (arePolygon rings))
  | .collection kind members =>
    have := decideAllFormed members
    inferInstanceAs (Decidable (kind.Allows members ∧ Shape.AreFormed members))

instance decideAllFormed : (shapes : List Shape) → Decidable (Shape.AreFormed shapes)
  | [] => .isTrue trivial
  | shape :: shapes =>
    have := decideFormed shape
    have := decideAllFormed shapes
    inferInstanceAs (Decidable (shape.IsFormed ∧ Shape.AreFormed shapes))

end

mutual

instance decideWritable : (shape : Shape) → Decidable shape.IsWritable
  | .point _ position => inferInstanceAs (Decidable (∀ p ∈ position, p.IsSomewhere))
  | .lineString _ positions | .linearRing _ positions | .circularString _ positions =>
    inferInstanceAs (Decidable (IsCountable positions))
  | .polygon _ rings =>
    inferInstanceAs
      (Decidable (¬ lacksShell rings → IsCountable rings ∧ ∀ ring ∈ rings, IsCountable ring))
  | .collection _ members =>
    have := decideAllWritable members
    inferInstanceAs (Decidable (IsCountable members ∧ Shape.AreWritable members))

instance decideAllWritable : (shapes : List Shape) → Decidable (Shape.AreWritable shapes)
  | [] => .isTrue trivial
  | shape :: shapes =>
    have := decideWritable shape
    have := decideAllWritable shapes
    inferInstanceAs (Decidable (shape.IsWritable ∧ Shape.AreWritable shapes))

end

end Decisions

section Members

variable {shapes : List Shape}

theorem planarAll_eq_map (shapes : List Shape) : Shape.planarAll shapes = shapes.map Shape.planar := by
  induction shapes with
  | nil => rfl
  | cons shape shapes ih => rw [Shape.planarAll, ih, List.map_cons]

theorem encodeAll_eq_flatMap (shapes : List Shape) :
    Shape.encodeAll shapes = shapes.flatMap (Shape.encode 0) := by
  induction shapes with
  | nil => rfl
  | cons shape shapes ih => rw [Shape.encodeAll, ih, List.flatMap_cons]

theorem areFormed_iff : Shape.AreFormed shapes ↔ ∀ shape ∈ shapes, shape.IsFormed := by
  induction shapes with
  | nil => exact iff_of_true trivial nofun
  | cons shape shapes ih => rw [Shape.AreFormed, ih, List.forall_mem_cons]

theorem areWritable_iff : Shape.AreWritable shapes ↔ ∀ shape ∈ shapes, shape.IsWritable := by
  induction shapes with
  | nil => exact iff_of_true trivial nofun
  | cons shape shapes ih => rw [Shape.AreWritable, ih, List.forall_mem_cons]

end Members

section Positions

variable {positions : List Position} {rings : List (List Position)}

theorem isNaN_of_isFinite {x : Binary64} (h : x.isFinite) : x.isNaN = false := by
  rw [Binary64.isFinite, bne_iff_ne] at h
  rw [Binary64.isNaN, beq_eq_false_iff_ne.mpr h, Bool.false_and]

theorem Position.IsFinite.isSomewhere {p : Position} (h : p.IsFinite) : p.IsSomewhere := by
  rw [Position.IsSomewhere, isNaN_of_isFinite h.1, Bool.false_and]

theorem isEmpty_flatten (positions : List Position) :
    (flatten positions).isEmpty = positions.isEmpty :=
  List.isEmpty_map

theorem length_flatten (positions : List Position) : (flatten positions).length = positions.length :=
  List.length_map _

theorem isClosed_flatten (positions : List Position) :
    isClosed (flatten positions) = isClosed positions := by
  rw [isClosed, isClosed, flatten, List.head?_map, List.getLast?_map]
  cases positions.head? with
  | none => rfl
  | some first =>
      cases positions.getLast? with
      | none => rfl
      | some last => rfl

theorem isLine_flatten (positions : List Position) :
    isLine (flatten positions) = isLine positions := by
  rw [isLine, isLine, length_flatten]

theorem isCircular_flatten (positions : List Position) :
    isCircular (flatten positions) = isCircular positions := by
  rw [isCircular, isCircular, length_flatten]

theorem isRing_flatten (positions : List Position) :
    isRing (flatten positions) = isRing positions := by
  rw [isRing, isRing, isEmpty_flatten, length_flatten, isClosed_flatten]

theorem isLine_of_isRing (h : isRing positions) : isLine positions := by
  simp only [isRing, isLine, Bool.or_eq_true, Bool.and_eq_true, List.isEmpty_iff,
    decide_eq_true_eq, bne_iff_ne] at h ⊢
  rcases h with rfl | ⟨hlength, -⟩
  · exact Nat.zero_ne_one
  · omega

theorem lacksShell_map_flatten (rings : List (List Position)) :
    lacksShell (rings.map flatten) = lacksShell rings := by
  cases rings with
  | nil => rfl
  | cons shell holes => exact isEmpty_flatten shell

theorem lacksShell_planarRings (rings : List (List Position)) :
    lacksShell (planarRings rings) = lacksShell rings := by
  rw [planarRings]
  split_ifs with hshell
  · exact hshell.symm
  · exact lacksShell_map_flatten rings

theorem arePolygon_planarRings (h : arePolygon rings) : arePolygon (planarRings rings) := by
  rw [planarRings]
  split_ifs
  · rfl
  · simp only [arePolygon, lacksShell_map_flatten, List.all_map, Function.comp_def, isRing_flatten,
      isEmpty_flatten] at h ⊢
    exact h

end Positions

section Shapes

variable {shapes : List Shape} {kind : CollectionKind}

theorem kind_planar (shape : Shape) : shape.planar.kind = shape.kind.unringed := by
  cases shape with
  | collection kind members =>
      rw [Shape.planar]
      cases kind <;> rfl
  | _ =>
      rw [Shape.planar]
      rfl

mutual

theorem isEmpty_planar : (shape : Shape) → shape.planar.isEmpty = shape.isEmpty
  | .point _ position => by rw [Shape.planar, Shape.isEmpty, Shape.isEmpty, Option.isNone_map]
  | .lineString _ positions | .linearRing _ positions | .circularString _ positions => by
      rw [Shape.planar, Shape.isEmpty, Shape.isEmpty, isEmpty_flatten]
  | .polygon _ rings => by
      rw [Shape.planar, Shape.isEmpty, Shape.isEmpty, lacksShell_planarRings]
  | .collection _ members => by
      rw [Shape.planar, Shape.isEmpty, Shape.isEmpty, areEmpty_planarAll]

theorem areEmpty_planarAll : (shapes : List Shape) →
    Shape.areEmpty (Shape.planarAll shapes) = Shape.areEmpty shapes
  | [] => rfl
  | shape :: shapes => by
      rw [Shape.planarAll, Shape.areEmpty, Shape.areEmpty, isEmpty_planar, areEmpty_planarAll]

end

theorem areContiguous_map_flatten (lines : List (List Position)) :
    areContiguous (lines.map flatten) = areContiguous lines := by
  induction lines with
  | nil => rfl
  | cons first lines ih =>
      cases lines with
      | nil =>
          rw [List.map_cons, List.map_nil, areContiguous, areContiguous, isEmpty_flatten]
      | cons second rest =>
          rw [List.map_cons] at ih ⊢
          rw [List.map_cons, areContiguous, areContiguous, ih, flatten, flatten, List.getLast?_map,
            List.head?_map]
          congr 1
          cases first.getLast? with
          | none => rfl
          | some last =>
              cases second.head? with
              | none => rfl
              | some next => rfl

theorem ne_nil_of_areContiguous {lines : List (List Position)} (h : areContiguous lines) :
    ∀ line ∈ lines, line ≠ [] := by
  induction lines with
  | nil => nofun
  | cons first lines ih =>
      rw [List.forall_mem_cons]
      cases lines with
      | nil => exact ⟨by simpa [areContiguous] using h, nofun⟩
      | cons second rest =>
          rw [areContiguous, Bool.and_eq_true] at h
          refine ⟨?_, ih h.2⟩
          rintro rfl
          exact absurd h.1 Bool.false_ne_true

/-- A shape with the positions of a line keeps them; the positions of a ring count only in the
plane. -/
theorem linePositions_planar {shape : Shape} (h : shape.linePositions ≠ []) :
    shape.planar.linePositions = flatten shape.linePositions := by
  cases shape with
  | lineString ordinates positions => rw [Shape.planar]; rfl
  | circularString ordinates positions => rw [Shape.planar]; rfl
  | _ => exact absurd rfl h

theorem areContiguous_planar (h : areContiguous (shapes.map Shape.linePositions)) :
    areContiguous ((shapes.map Shape.planar).map Shape.linePositions) := by
  have hlines : (shapes.map Shape.planar).map Shape.linePositions =
      (shapes.map Shape.linePositions).map flatten := by
    rw [List.map_map, List.map_map]
    refine List.map_congr_left fun shape hshape => linePositions_planar ?_
    exact ne_nil_of_areContiguous h _ (List.mem_map_of_mem hshape)
  rw [hlines, areContiguous_map_flatten]
  exact h

theorem areCurvedRings_planar (h : areCurvedRings shapes) :
    areCurvedRings (shapes.map Shape.planar) := by
  cases shapes with
  | nil => rfl
  | cons shell holes =>
      rw [List.map_cons, areCurvedRings, isEmpty_planar, ← planarAll_eq_map, areEmpty_planarAll]
      exact h

/-- **Members that are allowed are so in the plane.** -/
theorem admits_map_planar (h : kind.Allows shapes) : kind.admits (shapes.map Shape.planar) := by
  have hkinds : (decide (kind = .mixed) || (shapes.map Shape.planar).all fun shape =>
      kind.memberKinds.contains shape.kind) = true := by
    rw [Bool.or_eq_true, decide_eq_true_eq, List.all_map, List.all_eq_true]
    refine h.mem_memberKinds.imp id fun hmem shape hshape => ?_
    rw [Function.comp_apply, kind_planar, List.contains_eq_mem, decide_eq_true_eq]
    exact hmem shape hshape
  refine (Bool.and_eq_true _ _).mpr ⟨hkinds, ?_⟩
  cases kind with
  | compoundCurve => exact areContiguous_planar (h.areContiguous rfl)
  | curvePolygon => exact areCurvedRings_planar (h.areCurvedRings rfl)
  | _ => rfl

end Shapes

section Binary

theorem encodePositions_flatten (positions : List Position) :
    encodePositions (flatten positions) = encodePositions positions := by
  rw [encodePositions, encodePositions, length_flatten, flatten, List.flatMap_map]
  rfl

theorem encodePosition_flat (position : Option Position) :
    encodePosition ((position.map Position.flat).getD nowhere) =
      encodePosition (position.getD nowhere) := by
  cases position with
  | none => rfl
  | some p => rfl

theorem encodePositions_planarRings {rings : List (List Position)} (h : ¬ lacksShell rings) :
    word (planarRings rings).length ++ (planarRings rings).flatMap encodePositions =
      word rings.length ++ rings.flatMap encodePositions := by
  rw [planarRings, if_neg h, List.length_map, List.flatMap_map]
  simp only [encodePositions_flatten]

mutual

theorem encode_shape_planar : (shape : Shape) → (srid : Int) →
    shape.planar.encode srid = shape.encode srid
  | .point _ position, srid => by
      rw [Shape.planar, Shape.encode, Shape.encode]
      simp only [encodePosition_flat]
      rfl
  | .lineString _ positions, srid | .circularString _ positions, srid => by
      rw [Shape.planar, Shape.encode, Shape.encode]
      simp only [encodePositions_flatten]
      rfl
  | .linearRing _ positions, srid => by
      rw [Shape.planar, Shape.encode, Shape.encode]
      simp only [encodePositions_flatten]
      rfl
  | .polygon _ rings, srid => by
      rw [Shape.planar, Shape.encode, Shape.encode]
      by_cases hshell : lacksShell rings
      · simp only [lacksShell_planarRings, if_pos hshell]
        rfl
      · simp only [lacksShell_planarRings, if_neg hshell, encodePositions_planarRings hshell]
        rfl
  | .collection kind members, srid => by
      have hkind : (Shape.collection kind (Shape.planarAll members)).kind =
          (Shape.collection kind members).kind := by cases kind <;> rfl
      have hlength : (Shape.planarAll members).length = members.length := by
        rw [planarAll_eq_map, List.length_map]
      rw [Shape.planar, Shape.encode, Shape.encode, hkind, hlength, encodeAll_planarAll]

theorem encodeAll_planarAll : (shapes : List Shape) →
    Shape.encodeAll (Shape.planarAll shapes) = Shape.encodeAll shapes
  | [] => rfl
  | shape :: shapes => by
      rw [Shape.planarAll, Shape.encodeAll, Shape.encodeAll, encode_shape_planar, encodeAll_planarAll]

end

end Binary

end Geometry

namespace Geometry

/-- A geometry in the plane. -/
def planar (geometry : Geometry) : Geometry :=
  ⟨geometry.shape.planar, geometry.srid⟩

/-- A geometry that can be written and read again. Its shape is no curve itself, and the number of its
reference system has 32 bits. -/
structure IsSound (geometry : Geometry) : Prop where
  isFormed : geometry.shape.IsFormed
  isWritable : geometry.shape.IsWritable
  isCurved_eq : geometry.shape.kind.isCurved = false
  fits : Bytes.Fits 4 geometry.srid

/-- **The plane is all that is written.** -/
theorem encode_planar (geometry : Geometry) : geometry.planar.encode = geometry.encode :=
  encode_shape_planar geometry.shape geometry.srid

end Geometry
end VectorTiles
