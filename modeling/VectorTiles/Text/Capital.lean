/-!
# Capitals

Names that are written in capitals of ASCII may be given in any case.

**Results.**

* `capital`: the capital of a letter, if that stands in ASCII.
-/

namespace VectorTiles
namespace Text

/-- The capital of a letter, if that is a single letter of ASCII. The dotless i and the long s have
such capitals, too; other characters stay. -/
def capital (c : Char) : Char :=
  if c = 'ı' then 'I' else if c = 'ſ' then 'S' else c.toUpper

end Text
end VectorTiles
