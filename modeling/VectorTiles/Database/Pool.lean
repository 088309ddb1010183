import VectorTiles.Log
import VectorTiles.Settings.Basic

/-!
# Opening a pool

**Results.**

* `PoolOptions.ofSettings`: how the pool of the service is opened. The limit for the duration of a
  statement is set on every connection, so the database itself stops a statement that is too slow.
* `PoolOptions.openRecord`: what is recorded about it.
-/

namespace VectorTiles
namespace Database

/-- How a pool is opened. -/
structure PoolOptions where
  /-- Connections that are opened at once. -/
  minSize : Int
  /-- Connections that may be open at a time. -/
  maxSize : Int
  /-- How to reach the database. -/
  url : String
  /-- The options of every connection. -/
  options : String
  deriving DecidableEq, Repr

namespace PoolOptions

def ofSettings (settings : Settings) : PoolOptions :=
  ⟨settings.poolMinSize, settings.poolMaxSize, settings.databaseUrl,
    "-c statement_timeout=" ++ toString settings.statementTimeout⟩

/-- What is recorded before the pool is opened. -/
def openRecord (settings : Settings) : Log.Record :=
  ⟨.info, "Opening connection pool (min=" ++ toString settings.poolMinSize ++ ", max=" ++
    toString settings.poolMaxSize ++ ", statement_timeout=" ++
    toString settings.statementTimeout ++ "ms)"⟩

end PoolOptions
end Database
end VectorTiles
