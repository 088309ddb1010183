import VectorTiles.Geometry.Basic

/-!
# Building geometries

An outline says which positions a geometry is to have. Not every outline gives a geometry.

**Data.** A place lists the ordinates of a position, two or three of them; no ordinates are no
position. An ordinate is a number, or a whole number of any size.

**Rules.**

* A whole number is rounded to the nearest number, which has to be finite.
* The places of one line or ring all have a height, or none has.
* A line has no position or at least two.
* A ring of three positions, or one that does not end where it begins, is closed by its first
  position. A ring that is not empty has at least four positions then.
* A polygon with an empty shell has no hole.
* A collection of points or of lines has no empty member; in a collection of polygons the empty ones
  are left out.
* A reference system has a number of 32 bits. This holds for members as well, although only the
  system of the whole geometry counts.

**Faults.** Numbers that cannot be rounded are found before all other faults of an outline. In a
collection of any members the first faulty member decides.

**Results.**

* `Outline.shape`: the shape of an outline.
* `Outline.geometry`: the same in a reference system.
-/

namespace VectorTiles
namespace Geometry

/-- Why an outline gives no geometry. -/
inductive OutlineFault where
  /-- A whole number is too large. -/
  | excessiveOrdinate
  /-- A place has too few or too many ordinates, or only some places of a line or a ring have a
  height. -/
  | mixedOrdinates
  /-- A ring has one or two positions. -/
  | shortRing
  /-- A line has one position, a ring does not end where it begins, or a hole has no shell. -/
  | invalid
  /-- A collection of points or of lines has an empty member. -/
  | emptyMember
  /-- The number of the reference system has more than 32 bits. -/
  | sridOutOfRange
  deriving DecidableEq, Repr

/-- An ordinate as it is given. -/
inductive Ordinate where
  | number (value : Binary64)
  | whole (value : Int)
  deriving DecidableEq, Repr

abbrev Place := List Ordinate

/-- The places of a geometry, or the outlines of its members. -/
inductive Outline where
  | point (place : Place)
  | line (places : List Place)
  | ring (places : List Place)
  | polygon (rings : List (List Place))
  | points (places : List Place)
  | lines (parts : List (List Place))
  | polygons (parts : List (List (List Place)))
  | collection (members : List Outline)
  /-- An outline in a reference system. -/
  | inSystem (srid : Int) (outline : Outline)

instance : Inhabited Outline :=
  ⟨.point []⟩

section Ordinates

def Ordinate.rounded : Ordinate → Except OutlineFault Binary64
  | number value => .ok value
  | whole value =>
    let x := Binary64.ofInt value
    if x.isFinite then .ok x else .error .excessiveOrdinate

def roundedPlace (place : Place) : Except OutlineFault (List Binary64) :=
  place.mapM Ordinate.rounded

/-- The numbers of several places. -/
def roundedPlaces (places : List Place) : Except OutlineFault (List (List Binary64)) :=
  places.mapM roundedPlace

/-- The position that numbers give. -/
def positionOf : List Binary64 → Except OutlineFault Position
  | [x, y] => .ok ⟨x, y, none, none⟩
  | [x, y, height] => .ok ⟨x, y, some height, none⟩
  | _ => .error .mixedOrdinates

end Ordinates

section Positions

def ordinatesOf (positions : List Position) : Ordinates :=
  ⟨positions.any (·.height.isSome), positions.any (·.measure.isSome)⟩

def areUniform (positions : List Position) : Bool :=
  positions.all fun p => p.height.isSome == (ordinatesOf positions).hasHeight

/-- Whether two positions agree in all ordinates; NaN agrees with nothing. -/
def Position.agrees (p q : Position) : Bool :=
  (p.toList.zip q.toList).all fun (a, b) => a.sameValue b

/-- Whether positions end where they begin, in all ordinates. -/
def endsWhereBegins (positions : List Position) : Bool :=
  match positions.head?, positions.getLast? with
  | some first, some last => first.agrees last
  | _, _ => true

/-- The positions of a ring, closed if need be. -/
def closed (positions : List Position) : List Position :=
  if positions.length = 3 ∨ !endsWhereBegins positions then positions ++ positions.take 1
  else positions

/-- The positions that numbers give, which all have a height or all have none. -/
def uniformPositions (places : List (List Binary64)) : Except OutlineFault (List Position) := do
  let positions ← places.mapM positionOf
  if areUniform positions then return positions else .error .mixedOrdinates

def checkedLine (places : List (List Binary64)) : Except OutlineFault (List Position) := do
  let positions ← uniformPositions places
  if positions.length = 1 then .error .invalid else return positions

def checkedRing (places : List (List Binary64)) : Except OutlineFault (List Position) := do
  let positions ← uniformPositions places
  if positions.isEmpty then return []
  let ring := closed positions
  if ring.length < 4 then .error .shortRing
  else if !isClosed ring then .error .invalid
  else return ring

def checkedRings (rings : List (List (List Binary64))) :
    Except OutlineFault (List (List Position)) := do
  let rings ← rings.mapM checkedRing
  if lacksShell rings && rings.any (!·.isEmpty) then .error .invalid else return rings

end Positions

section Shapes

def pointShape (place : List Binary64) : Except OutlineFault Shape :=
  if place.isEmpty then .ok (.point .plane none)
  else do
    let position ← positionOf place
    return .point (ordinatesOf [position]) (some position)

def lineShape (places : List (List Binary64)) : Except OutlineFault Shape := do
  let positions ← checkedLine places
  return .lineString (ordinatesOf positions) positions

def ringShape (places : List (List Binary64)) : Except OutlineFault Shape := do
  let positions ← checkedRing places
  return .linearRing (ordinatesOf positions) positions

def polygonShape (rings : List (List (List Binary64))) : Except OutlineFault Shape := do
  let rings ← checkedRings rings
  return .polygon (ordinatesOf rings.flatten) rings

/-- A shape that is not empty. -/
def fullShape (shape : Except OutlineFault Shape) : Except OutlineFault Shape := do
  let shape ← shape
  if shape.isEmpty then .error .emptyMember else return shape

/-- Refuses a reference system whose number has more than 32 bits. -/
def checkSystem (srid : Int) : Except OutlineFault Unit :=
  if -0x80000000 ≤ srid ∧ srid < 0x80000000 then .ok () else .error .sridOutOfRange

namespace Outline

mutual

def shape : Outline → Except OutlineFault Shape
  | point place => do pointShape (← roundedPlace place)
  | line places => do lineShape (← roundedPlaces places)
  | ring places => do ringShape (← roundedPlaces places)
  | polygon rings => do polygonShape (← rings.mapM roundedPlaces)
  | points places => do
    let places ← roundedPlaces places
    return .collection .points (← places.mapM fun place => fullShape (pointShape place))
  | lines parts => do
    let parts ← parts.mapM roundedPlaces
    return .collection .lines (← parts.mapM fun part => fullShape (lineShape part))
  | polygons parts => do
    let parts ← parts.mapM fun rings => rings.mapM roundedPlaces
    return .collection .polygons ((← parts.mapM polygonShape).filter (!·.isEmpty))
  | collection members => do return .collection .mixed (← shapes members)
  | inSystem srid outline => do
    let shape ← shape outline
    checkSystem srid
    return shape

def shapes : List Outline → Except OutlineFault (List Shape)
  | [] => .ok []
  | outline :: outlines => do
    let first ← shape outline
    let rest ← shapes outlines
    return first :: rest

end

/-- The geometry of an outline in a reference system. -/
def geometry (outline : Outline) (srid : Int) : Except OutlineFault Geometry := do
  let shape ← outline.shape
  checkSystem srid
  return ⟨shape, srid⟩

end Outline
end Shapes

end Geometry
end VectorTiles
