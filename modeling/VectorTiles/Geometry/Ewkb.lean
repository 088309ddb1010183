import VectorTiles.Bytes.Word
import VectorTiles.Geometry.Basic

/-!
# Binary geometries

The binary form in which geometries cross the boundary of the database: a byte for the order of
the bytes, a type word, perhaps the number of the spatial reference system, then the content.

**Rules of writing.** Bytes come in little-endian order and positions without height and measure.
The reference system stands only in the outermost header, and only when it is known. A ring is
written as a line, a point without position as a point of two NaNs.

**Results.**

* `Geometry.encode`: the binary form.
* `Geometry.fieldLength`: the space it takes as a field with a length in front.
-/

namespace VectorTiles
namespace Geometry

section Words

/-- The flags of a type word. -/
def heightFlag : Nat := 0x80000000

def measureFlag : Nat := 0x40000000

def sridFlag : Nat := 0x20000000

/-- The number of a kind in a type word; a ring counts as a line. -/
def Kind.code : Kind → Nat
  | point => 1
  | lineString | linearRing => 2
  | polygon => 3
  | multiPoint => 4
  | multiLineString => 5
  | multiPolygon => 6
  | collection => 7
  | circularString => 8
  | compoundCurve => 9
  | curvePolygon => 10
  | multiCurve => 11
  | multiSurface => 12

/-- A count or a type word. -/
def word (n : Nat) : List UInt8 :=
  Bytes.littleEndian 4 n

end Words

section Writing

/-- The two ordinates of a position in the plane. -/
def encodePosition (p : Position) : List UInt8 :=
  Bytes.littleEndian 8 p.x.bits.toNat ++ Bytes.littleEndian 8 p.y.bits.toNat

/-- Positions with their number in front. -/
def encodePositions (ps : List Position) : List UInt8 :=
  word ps.length ++ ps.flatMap encodePosition

/-- The position that stands for none. -/
def nowhere : Position :=
  ⟨Binary64.nan, Binary64.nan, none, none⟩

/-- What stands in front of the content of a shape. -/
def encodeHeader (kind : Kind) (srid : Int) : List UInt8 :=
  if srid = 0 then 1 :: word kind.code
  else 1 :: (word (kind.code + sridFlag) ++ Bytes.littleEndian 4 (Bytes.pattern 4 srid))

mutual

/-- The binary form of a shape in a reference system, or with zero for none. -/
def Shape.encode (srid : Int) (shape : Shape) : List UInt8 :=
  encodeHeader shape.kind srid ++
    match shape with
    | .point _ position => encodePosition (position.getD nowhere)
    | .lineString _ positions | .linearRing _ positions | .circularString _ positions =>
      encodePositions positions
    | .polygon _ rings =>
      if lacksShell rings then word 0
      else word rings.length ++ rings.flatMap encodePositions
    | .collection _ members => word members.length ++ Shape.encodeAll members

/-- The binary forms of several shapes, one after the other. -/
def Shape.encodeAll : List Shape → List UInt8
  | [] => []
  | shape :: shapes => Shape.encode 0 shape ++ Shape.encodeAll shapes

end

/-- The size of the number in front of a field. -/
def lengthPrefix : Nat := 4

end Writing

end Geometry

namespace Geometry

/-- The binary form of a geometry. -/
def encode (geometry : Geometry) : List UInt8 :=
  geometry.shape.encode geometry.srid

/-- How many bytes a geometry takes as a field, with the length of the field in front. -/
def fieldLength (geometry : Geometry) : Nat :=
  geometry.encode.length + lengthPrefix

end Geometry
end VectorTiles
