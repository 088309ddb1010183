/-!
# Blank characters

**Property.** A character is white space when the character database gives it the property
White_Space. It is blank when it is white space or one of the four information separators
U+001C to U+001F.

**Results.**

* `isWhiteSpace`, `isBlank`: the two classes.
* `strip`: the text without the blanks at both ends.
* `IsBlankText`: the texts that strip to nothing.
-/

namespace VectorTiles
namespace Text

/-- The characters with the property White_Space. -/
def isWhiteSpace (c : Char) : Bool :=
  let n := c.toNat
  (0x09 ≤ n && n ≤ 0x0d) || n == 0x20 || n == 0x85 || n == 0xa0 || n == 0x1680 ||
    (0x2000 ≤ n && n ≤ 0x200a) || n == 0x2028 || n == 0x2029 || n == 0x202f || n == 0x205f ||
    n == 0x3000

/-- White space, or an information separator. -/
def isBlank (c : Char) : Bool :=
  isWhiteSpace c || (0x1c ≤ c.toNat && c.toNat ≤ 0x1f)

/-- A list without its first and last elements that satisfy `p`. -/
def trimBoth {α : Type} (p : α → Bool) (xs : List α) : List α :=
  ((xs.dropWhile p).reverse.dropWhile p).reverse

/-- The characters without the blanks at both ends. -/
def strip (cs : List Char) : List Char :=
  trimBoth isBlank cs

def IsBlankText (cs : List Char) : Prop :=
  ∀ c ∈ cs, isBlank c = true

instance (cs : List Char) : Decidable (IsBlankText cs) :=
  inferInstanceAs (Decidable (∀ c ∈ cs, isBlank c = true))

end Text
end VectorTiles
