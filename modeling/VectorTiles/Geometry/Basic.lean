import VectorTiles.Number.Binary64

/-!
# Geometries

**Data.** A position has two ordinates in the plane, and perhaps a height and a measure. A shape is
a point, a line, a ring, a circular line, a polygon, or made of other shapes. Some of the latter are
collections, of shapes of one kind or of any; a compound curve is made of curves that follow each
other, and a curve polygon of the curves around it and around its holes. Which ordinates an empty
shape would have is a property of the shape. A geometry is a shape in a spatial reference system,
whose number is zero when it is not known.

**Results.**

* `Shape.kind`, `Shape.ordinates`, `Shape.isEmpty`: what can be said of any shape.
* `Shape.hasCurves`: whether a shape is curved or made of shapes that are.
-/

namespace VectorTiles
namespace Geometry

/-- Which ordinates positions have beyond the two in the plane. -/
structure Ordinates where
  hasHeight : Bool
  hasMeasure : Bool
  deriving DecidableEq, Repr

namespace Ordinates

def plane : Ordinates := ⟨false, false⟩

/-- The ordinates that at least one of two shapes has. -/
def union (a b : Ordinates) : Ordinates :=
  ⟨a.hasHeight || b.hasHeight, a.hasMeasure || b.hasMeasure⟩

def display : Ordinates → String
  | ⟨false, false⟩ => "XY"
  | ⟨true, false⟩ => "XYZ"
  | ⟨false, true⟩ => "XYM"
  | ⟨true, true⟩ => "XYZM"

end Ordinates

/-- A position in the plane, with a height and a measure if it has them. -/
structure Position where
  x : Binary64
  y : Binary64
  height : Option Binary64
  measure : Option Binary64
  deriving DecidableEq, Repr

namespace Position

/-- All ordinates in their order. -/
def toList (p : Position) : List Binary64 :=
  p.x :: p.y :: (p.height.toList ++ p.measure.toList)

/-- Whether two positions are at the same place of the plane. -/
def samePlace (p q : Position) : Bool :=
  p.x.sameValue q.x && p.y.sameValue q.y

/-- A position without its height and measure. -/
def flat (p : Position) : Position :=
  ⟨p.x, p.y, none, none⟩

end Position

/-- Whether positions end where they begin, in the plane. -/
def isClosed (positions : List Position) : Bool :=
  match positions.head?, positions.getLast? with
  | some first, some last => first.samePlace last
  | _, _ => true

/-- What a shape is. -/
inductive Kind where
  | point
  | lineString
  | linearRing
  | polygon
  | multiPoint
  | multiLineString
  | multiPolygon
  | collection
  | circularString
  | compoundCurve
  | curvePolygon
  | multiCurve
  | multiSurface
  deriving DecidableEq, Repr

def Kind.name : Kind → String
  | point => "Point"
  | lineString => "LineString"
  | linearRing => "LinearRing"
  | polygon => "Polygon"
  | multiPoint => "MultiPoint"
  | multiLineString => "MultiLineString"
  | multiPolygon => "MultiPolygon"
  | collection => "GeometryCollection"
  | circularString => "CircularString"
  | compoundCurve => "CompoundCurve"
  | curvePolygon => "CurvePolygon"
  | multiCurve => "MultiCurve"
  | multiSurface => "MultiSurface"

def Kind.isCurved : Kind → Bool
  | circularString | compoundCurve | curvePolygon | multiCurve | multiSurface => true
  | _ => false

/-- The kinds of shapes that are made of other shapes. -/
inductive CollectionKind where
  | points
  | lines
  | polygons
  | mixed
  | compoundCurve
  | curvePolygon
  | curves
  | surfaces
  deriving DecidableEq, Repr

/-- A shape. The first ring of a polygon is its shell, the others are its holes. -/
inductive Shape where
  | point (ordinates : Ordinates) (position : Option Position)
  | lineString (ordinates : Ordinates) (positions : List Position)
  | linearRing (ordinates : Ordinates) (positions : List Position)
  | circularString (ordinates : Ordinates) (positions : List Position)
  | polygon (ordinates : Ordinates) (rings : List (List Position))
  | collection (kind : CollectionKind) (members : List Shape)

instance : Inhabited Shape :=
  ⟨.point .plane none⟩

/-- Whether rings form a polygon without any position: it has no shell, or an empty one. -/
def lacksShell (rings : List (List Position)) : Bool :=
  rings.head?.all List.isEmpty

namespace Shape

def kind : Shape → Kind
  | point _ _ => .point
  | lineString _ _ => .lineString
  | linearRing _ _ => .linearRing
  | circularString _ _ => .circularString
  | polygon _ _ => .polygon
  | collection .points _ => .multiPoint
  | collection .lines _ => .multiLineString
  | collection .polygons _ => .multiPolygon
  | collection .mixed _ => .collection
  | collection .compoundCurve _ => .compoundCurve
  | collection .curvePolygon _ => .curvePolygon
  | collection .curves _ => .multiCurve
  | collection .surfaces _ => .multiSurface

mutual

/-- The ordinates of a shape; a collection has those of its members. -/
def ordinates : Shape → Ordinates
  | point o _ | lineString o _ | linearRing o _ | circularString o _ | polygon o _ => o
  | collection _ members => unionOrdinates members

def unionOrdinates : List Shape → Ordinates
  | [] => .plane
  | shape :: shapes => (ordinates shape).union (unionOrdinates shapes)

end

mutual

/-- Whether a shape has no position; a polygon has one when its shell does. -/
def isEmpty : Shape → Bool
  | point _ position => position.isNone
  | lineString _ positions | linearRing _ positions | circularString _ positions =>
    positions.isEmpty
  | polygon _ rings => lacksShell rings
  | collection _ members => areEmpty members

/-- Whether none of several shapes has a position. -/
def areEmpty : List Shape → Bool
  | [] => true
  | shape :: shapes => isEmpty shape && areEmpty shapes

end

mutual

/-- Whether a shape is curved or made of shapes that are. -/
def hasCurves : Shape → Bool
  | collection kind members =>
    (collection kind []).kind.isCurved || haveCurves members
  | shape => shape.kind.isCurved

def haveCurves : List Shape → Bool
  | [] => false
  | shape :: shapes => hasCurves shape || haveCurves shapes

end

end Shape
end Geometry

/-- A shape and the number of its spatial reference system. -/
structure Geometry where
  shape : Geometry.Shape
  srid : Int

end VectorTiles
