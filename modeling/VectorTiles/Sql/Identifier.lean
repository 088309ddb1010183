import VectorTiles.Sql.Literal

/-!
# Identifiers

**Results.**

* `identifier`: a name between double quotes, which are written twice inside.
* `qualified`: a name within another one.
-/

namespace VectorTiles
namespace Sql

/-- A name as it stands in a statement. -/
def identifier (name : String) : String :=
  String.ofList ('"' :: doubled '"' name.toList ++ ['"'])

def qualified (schema name : String) : String :=
  identifier schema ++ "." ++ identifier name

end Sql
end VectorTiles
