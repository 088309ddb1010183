/-!
# Binary64 numbers

A floating point number is its pattern of 64 bits: a sign, an exponent field of eleven bits and a
fraction of 52 bits. A finite number with significand `m` and scale `p` has the magnitude
`m * 2 ^ p / 2 ^ 1074`, so all finite magnitudes are multiples of one unit.

**Algorithm.** A quotient of two naturals is rounded by bringing it to a significand below
`2 ^ 53` with the smallest scale that allows it, and by giving a half to the even neighbour. The
pattern of the magnitude is then the significand plus `2 ^ 52` times the scale: a carry out of the
significand lands in the exponent field by itself.

**Results.**

* `ofQuotient`, `ofDecimal`, `ofInt`: the nearest number, ties to even.
* `toInt?`: the integer that a number denotes, if it does.
* `sameValue`: numeric equality, which identifies the zeros and no two NaNs.
-/

namespace VectorTiles

/-- A floating point number, given by its bits. -/
structure Binary64 where
  bits : UInt64
  deriving DecidableEq, Repr, Inhabited

namespace Binary64

/-- The pattern of a sign and a magnitude. -/
def ofPattern (negative : Bool) (magnitude : Nat) : Binary64 :=
  ⟨UInt64.ofNat (if negative then Nat.pow 2 63 + magnitude else magnitude)⟩

/-- The exponent field of the infinities and of the NaNs. -/
def exponentLimit : Nat := 0x7ff

def infinityPattern : Nat := exponentLimit * Nat.pow 2 52

def infinity (negative : Bool) : Binary64 :=
  ofPattern negative infinityPattern

/-- The quiet NaN with the least payload. -/
def nan : Binary64 := ofPattern false (infinityPattern + Nat.pow 2 51)

def isNegative (x : Binary64) : Bool :=
  Nat.pow 2 63 ≤ x.bits.toNat

def exponentField (x : Binary64) : Nat :=
  x.bits.toNat / Nat.pow 2 52 % Nat.pow 2 11

def fraction (x : Binary64) : Nat :=
  x.bits.toNat % Nat.pow 2 52

def isNaN (x : Binary64) : Bool :=
  x.exponentField == exponentLimit && x.fraction != 0

def isFinite (x : Binary64) : Bool :=
  x.exponentField != exponentLimit

/-- The significand of a finite number, with its leading one. -/
def significand (x : Binary64) : Nat :=
  if x.exponentField = 0 then x.fraction else Nat.pow 2 52 + x.fraction

/-- The scale of a finite number, in doublings of the unit. -/
def scale (x : Binary64) : Nat :=
  x.exponentField - 1

/-- The magnitude of a finite number, in units of `2 ^ -1074`. -/
def units (x : Binary64) : Nat :=
  x.significand * Nat.pow 2 x.scale

/-- Numeric equality: NaN equals nothing, and the two zeros are equal. -/
def sameValue (x y : Binary64) : Bool :=
  !x.isNaN && !y.isNaN &&
    (x == y || (x.bits.toNat % Nat.pow 2 63 == 0 && y.bits.toNat % Nat.pow 2 63 == 0))

/-- The quotient rounded to the nearest integer, a half to the even one. -/
def roundHalfEven (numerator denominator : Nat) : Nat :=
  let q := numerator / denominator
  let twice := 2 * (numerator % denominator)
  if denominator < twice ∨ (twice = denominator ∧ q % 2 = 1) then q + 1 else q

/-- The magnitude pattern of `numerator / denominator`, which is positive. -/
def roundedPattern (numerator denominator : Nat) : Nat :=
  -- In units, the quotient is `numerator * 2 ^ 1074 / denominator`.
  let n := numerator * Nat.pow 2 1074
  let guess := n.log2 - denominator.log2
  let top := if n < denominator * Nat.pow 2 guess then guess - 1 else guess
  let p := top - 52
  min infinityPattern (p * Nat.pow 2 52 + roundHalfEven n (denominator * Nat.pow 2 p))

/-- The number nearest to a signed quotient of naturals. -/
def ofQuotient (negative : Bool) (numerator denominator : Nat) : Binary64 :=
  if numerator = 0 then ofPattern negative 0
  else ofPattern negative (roundedPattern numerator denominator)

/-- The number nearest to `digits * 10 ^ exponent`. Exponents that can only give an infinity or
a zero are settled without computing the power. -/
def ofDecimal (negative : Bool) (digits : Nat) (exponent : Int) : Binary64 :=
  if digits = 0 then ofPattern negative 0
  else if 400 < exponent then infinity negative
  else if exponent < -(Int.ofNat digits.log2) - 400 then ofPattern negative 0
  else if 0 ≤ exponent then ofQuotient negative (digits * Nat.pow 10 exponent.toNat) 1
  else ofQuotient negative digits (Nat.pow 10 (-exponent).toNat)

/-- The number nearest to an integer. -/
def ofInt (n : Int) : Binary64 :=
  ofQuotient (n < 0) n.natAbs 1

/-- The integer that a finite number denotes, when it has no fractional part. -/
def toInt? (x : Binary64) : Option Int :=
  if x.isFinite ∧ x.units % Nat.pow 2 1074 = 0 then
    let n := Int.ofNat (x.units / Nat.pow 2 1074)
    some (if x.isNegative then -n else n)
  else none

end Binary64
end VectorTiles
