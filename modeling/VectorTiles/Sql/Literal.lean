/-!
# Literals and placeholders

Text is embedded in a statement on two levels. The query language reads a literal between single
quotes, in which a quote is written twice. The driver reads the whole statement first: it replaces
each placeholder by a parameter and each doubled percent sign by a single one, so a percent sign
that belongs to the text is written twice.

**Results.**

* `literal`: the literal of a text in the query language.
* `escapePercent`: a text as the driver has to be given it.
* `quoteLiteral?`: the literal of a text that can stand in one, ready for the driver.
-/

namespace VectorTiles
namespace Sql

/-- Writes every occurrence of one character twice. -/
def doubled (mark : Char) (cs : List Char) : List Char :=
  cs.flatMap fun c => if c = mark then [c, c] else [c]

/-- The literal of a text: quotes inside are written twice. -/
def literal (cs : List Char) : List Char :=
  '\'' :: doubled '\'' cs ++ ['\'']

/-- The text with percent signs written twice. -/
def escapePercent (cs : List Char) : List Char :=
  doubled '%' cs

/-- The literal of a text, for a statement with placeholders. An empty text has none, nor has one
with the character U+0000. -/
def quoteLiteral? (cs : List Char) : Option (List Char) :=
  if cs.isEmpty || cs.contains '\x00' then none else some (escapePercent (literal cs))

end Sql
end VectorTiles
