/-!
# Issues of a document

An issue says what is wrong with one place of a document.

**Data.** The place is the path of member names and positions that leads to it. The cause is one
of a fixed list; causes with a bound or a text carry it.

**Results.**

* `Cause.code`, `Cause.message`: the short name and the wording of a cause.
* `Issue.within`: the same issue, seen from the value that encloses the document.
* `Checked`: a value or the issues that prevent it.
-/

namespace VectorTiles
namespace Schema

/-- One step into a document. -/
inductive Step where
  | member (name : String)
  | position (index : Nat)
  deriving DecidableEq, Repr

/-- What is wrong with a value. -/
inductive Cause where
  | notJson
  | missing
  | notString
  | notInteger
  | unreadableInteger
  | oversizedInteger
  | fractionalInteger
  | infiniteInteger
  | notNumber
  | unreadableNumber
  | notArray
  | notList
  | notObject
  | notRecord
  | notPath
  | notUrl
  | unexpected
  | tooLong (limit actual : Nat)
  | below (bound : Int)
  | above (bound : Int)
  | rejected (reason : String)
  deriving DecidableEq, Repr

/-- The short name of a cause. -/
def Cause.code : Cause → String
  | notJson => "json_invalid"
  | missing => "missing"
  | notString => "string_type"
  | notInteger => "int_type"
  | unreadableInteger => "int_parsing"
  | oversizedInteger => "int_parsing_size"
  | fractionalInteger => "int_from_float"
  | infiniteInteger => "finite_number"
  | notNumber => "float_type"
  | unreadableNumber => "float_parsing"
  | notArray => "tuple_type"
  | notList => "list_type"
  | notObject => "dict_type"
  | notRecord => "model_type"
  | notPath => "path_type"
  | notUrl => "url_type"
  | unexpected => "extra_forbidden"
  | tooLong _ _ => "too_long"
  | below _ => "greater_than_equal"
  | above _ => "less_than_equal"
  | rejected _ => "value_error"

def Cause.message : Cause → String
  | notJson => "Invalid JSON"
  | missing => "Field required"
  | notString => "Input should be a valid string"
  | notInteger => "Input should be a valid integer"
  | unreadableInteger =>
    "Input should be a valid integer, unable to parse string as an integer"
  | oversizedInteger => "Unable to parse input string as an integer, exceeded maximum size"
  | fractionalInteger =>
    "Input should be a valid integer, got a number with a fractional part"
  | infiniteInteger => "Input should be a finite number"
  | notNumber => "Input should be a valid number"
  | unreadableNumber =>
    "Input should be a valid number, unable to parse string as a number"
  | notArray => "Input should be a valid array"
  | notList => "Input should be a valid list"
  | notObject | notRecord => "Input should be an object"
  | notPath => "Input is not a valid path for <class 'pathlib.Path'>"
  | notUrl => "URL input should be a string or URL"
  | unexpected => "Extra inputs are not permitted"
  | tooLong limit actual =>
    "Tuple should have at most " ++ toString limit ++ " items after validation, not " ++
      toString actual
  | below bound => "Input should be greater than or equal to " ++ toString bound
  | above bound => "Input should be less than or equal to " ++ toString bound
  | rejected reason => "Value error, " ++ reason

/-- A cause and its place. -/
structure Issue where
  path : List Step
  cause : Cause
  deriving DecidableEq, Repr

/-- The issue with the document as a whole. -/
def Issue.here (cause : Cause) : Issue :=
  ⟨[], cause⟩

/-- The issue, seen from one step further out. -/
def Issue.within (step : Step) (issue : Issue) : Issue :=
  ⟨step :: issue.path, issue.cause⟩

/-- A value, or the issues that prevent it in the order in which they are reported. -/
abbrev Checked (α : Type) := Except (List Issue) α

namespace Checked

/-- Fails with one issue of the whole document. -/
def reject {α : Type} (cause : Cause) : Checked α :=
  .error [Issue.here cause]

/-- Moves the issues of a part one step out. -/
def within {α : Type} (step : Step) : Checked α → Checked α
  | .ok a => .ok a
  | .error issues => .error (issues.map (Issue.within step))

/-- Two parts: the issues of both are reported. -/
def both {α β : Type} : Checked α → Checked β → Checked (α × β)
  | .ok a, .ok b => .ok (a, b)
  | .ok _, .error issues => .error issues
  | .error issues, .ok _ => .error issues
  | .error issues, .error more => .error (issues ++ more)

/-- A function that waits for its checked arguments. -/
def build {α : Type} (function : α) : Checked α :=
  .ok function

/-- A function and its argument: the issues of both are reported. -/
def apply {α β : Type} (function : Checked (α → β)) (argument : Checked α) : Checked β :=
  (both function argument).map fun (f, a) => f a

/-- The values of a list of parts: the issues of all are reported. -/
def all {α : Type} : List (Checked α) → Checked (List α)
  | [] => .ok []
  | part :: parts => (both part (all parts)).map fun (a, as) => a :: as

end Checked

end Schema
end VectorTiles
