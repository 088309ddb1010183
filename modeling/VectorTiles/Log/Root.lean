import VectorTiles.Log
import VectorTiles.Text.Capital

/-!
# The root logger

**Rules.** Levels are named in either case. An unknown name stands for the level of information.
Records are written by one handler, which is installed when there is none.

**Results.**

* `weightOfName`: the weight of a level with a name.
* `RootLogger.configure`: the logger with another level.
-/

namespace VectorTiles
namespace Log

/-- The form of written records: time, level, origin and text. -/
def recordFormat : String := "%(asctime)s %(levelname)s [%(name)s] %(message)s"

/-- The names of levels with their weights. -/
def namedWeights : List (String × Nat) := [
  ("CRITICAL", 50),
  ("FATAL", 50),
  ("ERROR", Level.error.weight),
  ("WARNING", Level.warning.weight),
  ("WARN", Level.warning.weight),
  ("INFO", Level.info.weight),
  ("DEBUG", Level.debug.weight),
  ("NOTSET", 0)]

def weightOfName (name : String) : Nat :=
  (namedWeights.lookup (String.ofList (name.toList.map Text.capital))).getD Level.info.weight

/-- The logger that all records reach. -/
structure RootLogger where
  weight : Nat
  /-- The forms in which its handlers write. -/
  handlers : List String
  deriving DecidableEq, Repr

namespace RootLogger

/-- The logger before it is configured. -/
def initial : RootLogger := ⟨Level.warning.weight, []⟩

/-- The name of the level that is set unless another one is named. -/
def standardName : String := "INFO"

/-- The logger with the level of a name, and with a handler. -/
def configure (logger : RootLogger) (name : String) : RootLogger :=
  ⟨weightOfName name, if logger.handlers.isEmpty then [recordFormat] else logger.handlers⟩

end RootLogger
end Log
end VectorTiles
