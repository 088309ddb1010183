import VectorTiles.Text.Blank
import VectorTiles.Text.DecimalDigit
import VectorTiles.Text.Digits

/-!
# Numerals

**Rules.** White space may surround a numeral. A sign of either kind may stand in front of the
digits, single underscores between them. A numeral of too many digits is not read.

**Results.**

* `integerOf?`: the whole number that characters spell with given digits.
* `asciiDigit?`: the digits of ASCII.
-/

namespace VectorTiles
namespace Text

def digitLimit : Nat := 4300

/-- The values of digits with single underscores between them. -/
def digitValues? (digit? : Char → Option Nat) : List Char → Option (List Nat)
  | [] => none
  | [c] => (digit? c).map ([·])
  | c :: '_' :: rest => do
    let value ← digit? c
    let values ← digitValues? digit? rest
    return value :: values
  | c :: rest => do
    let value ← digit? c
    let values ← digitValues? digit? rest
    return value :: values

/-- Splits a sign of either kind off. -/
def splitSign : List Char → Bool × List Char
  | '-' :: rest => (true, rest)
  | '+' :: rest => (false, rest)
  | cs => (false, cs)

/-- The whole number that characters spell with the given digits. -/
def integerOf? (digit? : Char → Option Nat) (cs : List Char) : Option Int := do
  let (negative, digits) := splitSign (trimBoth isWhiteSpace cs)
  let values ← digitValues? digit? digits
  guard (values.length ≤ digitLimit)
  let n := Int.ofNat (values.foldl (fun n value => 10 * n + value) 0)
  return if negative then -n else n

/-- The value of a decimal digit of ASCII. -/
def asciiDigit? (c : Char) : Option Nat :=
  if c.isDigit then some (digitValue c) else none

end Text
end VectorTiles
