import VectorTiles.Text.Printable
import VectorTiles.Text.Digits

/-!
# Quoted display of a text

Messages show a name between quotes, with everything that a terminal could not show escaped.

**Rule.** The quote is single unless the text holds a single and no double quote. The backslash
and the quote in use are escaped by a backslash; tab, line feed and carriage return have letter
escapes; any other character that is not printable is written in hexadecimal with two, four or
eight digits, the fewest that hold it.

**Results.**

* `quoted`: the display of a text.
-/

namespace VectorTiles
namespace Text

/-- The quote that surrounds the display of a text. -/
def displayQuote (cs : List Char) : Char :=
  if cs.contains '\'' && !cs.contains '"' then '"' else '\''

/-- The hexadecimal escape of a character: two, four or eight digits. -/
def hexEscape (c : Char) : List Char :=
  let n := c.toNat
  if n < 0x100 then '\\' :: 'x' :: hexOfWidth 2 n
  else if n < 0x10000 then '\\' :: 'u' :: hexOfWidth 4 n
  else '\\' :: 'U' :: hexOfWidth 8 n

/-- How a character appears between quotes of the given kind. -/
def displayChar (quote c : Char) : List Char :=
  if c == quote || c == '\\' then ['\\', c]
  else if c == '\t' then ['\\', 't']
  else if c == '\n' then ['\\', 'n']
  else if c == '\r' then ['\\', 'r']
  else if isPrintable c then [c]
  else hexEscape c

/-- The display of a text between quotes. -/
def quoted (s : String) : String :=
  let cs := s.toList
  let quote := displayQuote cs
  String.ofList (quote :: cs.flatMap (displayChar quote) ++ [quote])

end Text
end VectorTiles
