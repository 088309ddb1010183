/-!
# Digits

Reading and writing numerals.

**Results.**

* `decimalValue`: the number that a list of ASCII decimal digits denotes.
* `hexDigit`, `hexOfWidth`: lower-case hexadecimal numerals of a fixed width.
* `ofHex?`: the bytes that an even number of hexadecimal digits denotes.
* `ofSpacedHex?`: the same, with blanks between the bytes.
* `padded`: decimal numerals filled up with zeros.
-/

namespace VectorTiles
namespace Text

/-- The value of an ASCII decimal digit; other characters count as their distance from zero. -/
def digitValue (c : Char) : Nat :=
  c.toNat - '0'.toNat

/-- The number denoted by decimal digits, most significant first. -/
def decimalValue (cs : List Char) : Nat :=
  cs.foldl (fun n c => 10 * n + digitValue c) 0

/-- The lower-case hexadecimal digit of a value below sixteen. -/
def hexDigit (n : Nat) : Char :=
  if n < 10 then Char.ofNat ('0'.toNat + n) else Char.ofNat ('a'.toNat + (n - 10))

/-- The last `width` hexadecimal digits of a number. -/
def hexOfWidth : Nat → Nat → List Char
  | 0, _ => []
  | width + 1, n => hexOfWidth width (n / 16) ++ [hexDigit (n % 16)]

/-- The value of a hexadecimal digit of either case. -/
def hexValue? (c : Char) : Option Nat :=
  if '0' ≤ c ∧ c ≤ '9' then some (c.toNat - '0'.toNat)
  else if 'a' ≤ c ∧ c ≤ 'f' then some (c.toNat - 'a'.toNat + 10)
  else if 'A' ≤ c ∧ c ≤ 'F' then some (c.toNat - 'A'.toNat + 10)
  else none

/-- The bytes written as pairs of hexadecimal digits. -/
def ofHex? : List Char → Option (List UInt8)
  | [] => some []
  | [_] => none
  | high :: low :: rest => do
    let h ← hexValue? high
    let l ← hexValue? low
    let bytes ← ofHex? rest
    return UInt8.ofNat (16 * h + l) :: bytes

def isAsciiBlank (c : Char) : Bool :=
  c == ' ' || ('\t' ≤ c && c ≤ '\r')

/-- The bytes written as pairs of hexadecimal digits; blanks may stand around each pair. -/
def ofSpacedHex? : List Char → Option (List UInt8)
  | [] => some []
  | [c] => if isAsciiBlank c then some [] else none
  | high :: low :: rest =>
    if isAsciiBlank high then ofSpacedHex? (low :: rest)
    else do
      let h ← hexValue? high
      let l ← hexValue? low
      let bytes ← ofSpacedHex? rest
      return UInt8.ofNat (16 * h + l) :: bytes

/-- Two lower-case hexadecimal digits per byte. -/
def toHex (bytes : List UInt8) : String :=
  String.ofList (bytes.flatMap fun b => hexOfWidth 2 b.toNat)

/-- The decimal numeral of a number, filled up with zeros to a least width. -/
def padded (width n : Nat) : String :=
  let digits := toString n
  String.ofList (List.replicate (width - digits.length) '0') ++ digits

end Text
end VectorTiles
