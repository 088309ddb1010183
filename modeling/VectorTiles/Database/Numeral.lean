import VectorTiles.Database.Value
import VectorTiles.Text.Numeral

/-!
# Whole numbers in cells

A column of whole numbers may also come as a truth value, as a text or as binary data that spell a
numeral.

**Rules.** A text may use the digits of any script, binary data only those of ASCII.

**Results.**

* `Cell.toInteger`: the whole number of a cell.
-/

namespace VectorTiles
namespace Database

/-- The characters of binary data, which stand for ASCII; none when another byte is among them. -/
def asciiText? (content : List UInt8) : Option (List Char) :=
  if content.all (· < 128) then some (content.map fun b => Char.ofNat b.toNat) else none

/-- The whole number of a cell. -/
def Cell.toInteger (cell : Cell) : Except CellFault Int :=
  let spelled (value : Option Int) : Except CellFault Int :=
    match value with
    | some n => .ok n
    | none => .error .unreadable
  match cell with
  | .int value => .ok value
  | .bool value => .ok (if value then 1 else 0)
  | .text value => spelled (Text.integerOf? Text.decimalDigit? value.toList)
  | .bytes content | .buffer content =>
    spelled ((asciiText? content).bind (Text.integerOf? Text.asciiDigit?))
  | .null | .timestamp _ => .error .wrongKind

end Database
end VectorTiles
