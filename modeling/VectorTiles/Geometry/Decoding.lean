import VectorTiles.Geometry.Ewkb
import VectorTiles.Text.Digits

/-!
# Reading binary geometries

**Input.** The binary form of a geometry in either order of bytes, with the flags of the extended
form or with the type numbers of the ISO form, or the hexadecimal text of such data.

**Rules.**

* A byte that names no order leaves the order in force as it is; at the beginning it is
  little-endian.
* Flags and type numbers may both announce heights and measures.
* The reference system of the outermost header holds for the whole geometry.
* A point of two NaNs has no position. A line has no position or at least two. A ring has no
  position, or at least three of which the last is at the place of the first. A circular line has
  any number of positions but two. A polygon with an empty shell has no hole.
* Members of a collection of one kind are of that kind. The parts of a compound curve are lines,
  straight or circular and not empty, each of which begins where the one before ends. The rings of a
  curve polygon are any curves.
* A shape with curves is a geometry only as a member of a collection of any shapes.
* What follows the geometry is ignored.

**Results.**

* `Geometry.decode`: the geometry of binary data.
* `Geometry.decodeStraight`: the same, unless some member has curves.
-/

namespace VectorTiles
namespace Geometry

section Types

/-- Why binary data give no geometry. -/
inductive DecodeFault where
  | malformed
  | curved
  deriving DecidableEq, Repr

/-- The data that are still to be read, and the order of their bytes. -/
structure Source where
  rest : List UInt8
  isBigEndian : Bool

abbrev Reading (α : Type) := StateT Source (Except DecodeFault) α

/-- What stands in front of the content of a shape. -/
structure Header where
  code : Nat
  ordinates : Ordinates
  srid : Int

end Types

section Elements

def malformed {α : Type} : Reading α :=
  throw .malformed

def readBytes (count : Nat) : Reading (List UInt8) := fun source =>
  let bytes := source.rest.take count
  if bytes.length = count then .ok (bytes, { source with rest := source.rest.drop count })
  else .error .malformed

/-- The next number of `width` bytes, in the order in force. -/
def readNat (width : Nat) : Reading Nat := do
  let bytes ← readBytes width
  return if (← get).isBigEndian then Bytes.ofBigEndian bytes else Bytes.ofLittleEndian bytes

def readWord : Reading Nat := readNat 4

def readNumber : Reading Binary64 := do
  return ⟨UInt64.ofNat (← readNat 8)⟩

/-- Puts the order that a byte names into force. -/
def setOrder (mark : Nat) : Reading Unit :=
  modify fun source =>
    { source with
      isBigEndian := if mark = 1 then false else if mark = 0 then true else source.isBigEndian }

/-- The same step so many times. -/
def repeated {α : Type} (step : Reading α) : Nat → Reading (List α)
  | 0 => return []
  | count + 1 => do
    let first ← step
    let rest ← repeated step count
    return first :: rest

/-- A count, and the same step so many times. -/
def counted {α : Type} (step : Reading α) : Reading (List α) := do
  repeated step (← readWord)

def hasFlag (word flag : Nat) : Bool :=
  word / flag % 2 = 1

def readHeader : Reading Header := do
  setOrder (← readNat 1)
  let word ← readWord
  let range := word % 65536 / 1000
  let height := hasFlag word heightFlag || range == 1 || range == 3
  let measure := hasFlag word measureFlag || range == 2 || range == 3
  let srid ← if hasFlag word sridFlag then Bytes.ofPattern 4 <$> readWord else pure 0
  return ⟨word % 65536 % 1000, ⟨height, measure⟩, srid⟩

def readPosition (ordinates : Ordinates) : Reading Position := do
  let x ← readNumber
  let y ← readNumber
  let height ← if ordinates.hasHeight then some <$> readNumber else pure none
  let measure ← if ordinates.hasMeasure then some <$> readNumber else pure none
  return ⟨x, y, height, measure⟩

end Elements

section Rules

/-- Positions of a line: none, or at least two. -/
def isLine (positions : List Position) : Bool :=
  positions.length != 1

/-- Positions of a ring: none, or at least three that end where they begin. -/
def isRing (positions : List Position) : Bool :=
  positions.isEmpty || (3 ≤ positions.length && isClosed positions)

/-- Rings of a polygon: without a shell there is no hole. -/
def arePolygon (rings : List (List Position)) : Bool :=
  rings.all isRing && (!lacksShell rings || rings.all List.isEmpty)

/-- Positions of a circular line: any number but two. -/
def isCircular (positions : List Position) : Bool :=
  positions.length != 2

def Shape.linePositions : Shape → List Position
  | .lineString _ positions | .circularString _ positions => positions
  | _ => []

/-- Whether each of several lines has positions and ends where the next one begins. -/
def areContiguous : List (List Position) → Bool
  | [] => true
  | [line] => !line.isEmpty
  | first :: second :: rest =>
    (match first.getLast?, second.head? with
      | some last, some next => last.samePlace next
      | _, _ => false) && areContiguous (second :: rest)

/-- Whether shapes can be the rings of a curve polygon: without a shell there is no hole. -/
def areCurvedRings (shapes : List Shape) : Bool :=
  match shapes with
  | shell :: holes => !shell.isEmpty || Shape.areEmpty holes
  | [] => true

/-- The kinds of the members of a shape; none when any kind will do. -/
def CollectionKind.memberKinds : CollectionKind → List Kind
  | points => [.point]
  | lines => [.lineString]
  | polygons => [.polygon]
  | mixed => []
  | compoundCurve => [.lineString, .circularString]
  | curvePolygon | curves => [.lineString, .circularString, .compoundCurve]
  | surfaces => [.polygon, .curvePolygon]

def CollectionKind.admits (kind : CollectionKind) (shapes : List Shape) : Bool :=
  (kind = .mixed || shapes.all fun shape => kind.memberKinds.contains shape.kind) &&
    match kind with
    | compoundCurve => areContiguous (shapes.map Shape.linePositions)
    | curvePolygon => areCurvedRings shapes
    | _ => true

/-- What is read if a condition holds. -/
def provided (condition : Bool) (shape : Shape) : Reading Shape :=
  if condition then return shape else malformed

/-- A shape that is made of others. -/
def composed (kind : CollectionKind) (shapes : List Shape) : Reading Shape :=
  provided (kind.admits shapes)
    (.collection kind (if kind = .curvePolygon ∧ Shape.areEmpty shapes then [] else shapes))

end Rules

section Shapes

/-- The content behind a header; `members` reads the members of a shape that is made of others. -/
def readContent (header : Header) (members : Reading (List Shape)) : Reading Shape := do
  let o := header.ordinates
  match header.code with
  | 1 =>
    let p ← readPosition o
    return .point o (if p.x.isNaN && p.y.isNaN then none else some p)
  | 2 =>
    let ps ← counted (readPosition o)
    provided (isLine ps) (.lineString o ps)
  | 3 =>
    let rings ← counted (counted (readPosition o))
    provided (arePolygon rings) (.polygon o rings)
  | 4 => composed .points (← members)
  | 5 => composed .lines (← members)
  | 6 => composed .polygons (← members)
  | 7 => composed .mixed (← members)
  | 8 =>
    let ps ← counted (readPosition o)
    provided (isCircular ps) (.circularString o ps)
  | 9 => composed .compoundCurve (← members)
  | 10 => composed .curvePolygon (← members)
  | 11 => composed .curves (← members)
  | 12 => composed .surfaces (← members)
  | _ => malformed

/-- A header with its content. Each level of nesting is paid from the fuel. -/
def readShape : Nat → Reading (Int × Shape)
  | 0 => malformed
  | fuel + 1 => do
    let header ← readHeader
    let shape ← readContent header (counted (Prod.snd <$> readShape fuel))
    return (header.srid, shape)

end Shapes

/-- The bytes behind a hexadecimal text, which begins with one of the digits that a first byte can
have; other data stand for themselves. -/
def plainBytes? (data : List UInt8) : Option (List UInt8) :=
  match data with
  | 0x30 :: _ | 0x31 :: _ => Text.ofHex? (data.map fun b => Char.ofNat b.toNat)
  | _ => some data

/-- The geometry of binary data. -/
def decode (data : List UInt8) : Except DecodeFault Geometry :=
  match plainBytes? data with
  | none => .error .malformed
  | some bytes =>
    match readShape (bytes.length + 1) ⟨bytes, false⟩ with
    | .error fault => .error fault
    | .ok ((srid, shape), _) =>
      if shape.kind.isCurved then .error .curved else .ok ⟨shape, srid⟩

/-- The geometry of binary data, if it is free of curves down to its last member. -/
def decodeStraight (data : List UInt8) : Except DecodeFault Geometry := do
  let geometry ← decode data
  if geometry.shape.hasCurves then throw .curved else return geometry

end Geometry
end VectorTiles
