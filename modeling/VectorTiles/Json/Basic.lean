import VectorTiles.Number.Binary64

/-!
# JSON values

**Data.** Whole numbers and floating point numbers are kept apart, as the text of a document does:
a numeral without fraction and exponent is a whole number of any size. The members of an object
keep the order in which their names first appeared.

**Results.**

* `Json.get?`: the member of an object.
* `Json.put`: sets a member of a list of members; the last value of a repeated name wins.
-/

namespace VectorTiles

/-- A JSON value. -/
inductive Json where
  | null
  | bool (value : Bool)
  | int (value : Int)
  | float (value : Binary64)
  | string (value : String)
  | array (items : List Json)
  | object (members : List (String × Json))
  deriving Inhabited

namespace Json

/-- Sets the member `name`, in its old place if there is one, else at the end. -/
def put (name : String) (value : Json) : List (String × Json) → List (String × Json)
  | [] => [(name, value)]
  | (other, old) :: rest =>
    if other = name then (name, value) :: rest else (other, old) :: put name value rest

/-- The member `name` of a list of members. -/
def lookup? (name : String) : List (String × Json) → Option Json
  | [] => none
  | (other, value) :: rest => if other = name then some value else lookup? name rest

/-- The member `name` of an object; other values have no members. -/
def get? (name : String) : Json → Option Json
  | .object members => lookup? name members
  | _ => none

end Json
end VectorTiles
