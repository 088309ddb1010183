/-!
# Log records

What the service reports while it works: a text with a level.

**Results.**

* `Record`: one record.
* `Recorded`: a result together with the records that were written on the way.
-/

namespace VectorTiles
namespace Log

inductive Level where
  | debug
  | info
  | warning
  | error
  deriving DecidableEq, Repr

/-- Levels in increasing order of weight. -/
def Level.weight : Level → Nat
  | debug => 10
  | info => 20
  | warning => 30
  | error => 40

def Level.name : Level → String
  | debug => "DEBUG"
  | info => "INFO"
  | warning => "WARNING"
  | error => "ERROR"

/-- A text with a level. -/
structure Record where
  level : Level
  text : String
  deriving DecidableEq, Repr

/-- A result, and the records written on the way to it in their order. -/
abbrev Recorded (α : Type) := α × List Record

end Log
end VectorTiles
