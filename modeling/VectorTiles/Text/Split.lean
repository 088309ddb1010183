/-!
# Splitting texts

**Results.**

* `splitBy`: the parts of a text between the characters of a class.
-/

namespace VectorTiles
namespace Text

/-- The parts between the characters that satisfy `p`; there is one more of them than of these. -/
def splitBy (p : Char → Bool) : List Char → List (List Char)
  | [] => [[]]
  | c :: rest =>
    if p c then [] :: splitBy p rest
    else
      match splitBy p rest with
      | first :: others => (c :: first) :: others
      | [] => [[c]]

end Text
end VectorTiles
