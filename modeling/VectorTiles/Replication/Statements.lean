import VectorTiles.Sql.Identifier

/-!
# Statements of a header table

**Data.** A table is named by its schema and its own name; both may hold any characters.

**Results.**

* `Table.columns`: the columns, in the order in which rows give and take them.
* `Table.create`, `Table.upsert` and the others: the statements of the table.
-/

namespace VectorTiles
namespace Replication

open Sql

/-- A table of replication headers. -/
structure Table where
  schema : String
  name : String
  deriving DecidableEq, Repr

namespace Table

/-- The table that is used unless another one is named. -/
def standard : Table := ⟨"public", "osm_header"⟩

def keyColumn : String := "replication_sequence_number"

/-- The columns beside the key, with their types. -/
def valueColumns : List (String × String) := [
  ("replication_timestamp", "timestamp without time zone"),
  ("replication_url", "text"),
  ("source", "text"),
  ("writing_program", "text")]

def columns : List String :=
  keyColumn :: valueColumns.map (·.1)

def columnList : String :=
  ", ".intercalate (columns.map identifier)

/-- The name of the table in a statement. -/
def identity (table : Table) : String :=
  qualified table.schema table.name

def create (table : Table) : String :=
  "CREATE TABLE IF NOT EXISTS " ++ table.identity ++ " (" ++ identifier keyColumn ++
    " bigint PRIMARY KEY, " ++
    ", ".intercalate (valueColumns.map fun column => identifier column.1 ++ " " ++ column.2) ++ ")"

def drop (table : Table) : String :=
  "DROP TABLE IF EXISTS " ++ table.identity ++ " CASCADE"

def truncate (table : Table) : String :=
  "TRUNCATE TABLE " ++ table.identity

/-- All rows, the greatest key first. -/
def selectAll (table : Table) : String :=
  "SELECT " ++ columnList ++ " FROM " ++ table.identity ++ " ORDER BY " ++ identifier keyColumn ++
    " DESC"

/-- The row with a key. -/
def selectOne (table : Table) : String :=
  "SELECT " ++ columnList ++ " FROM " ++ table.identity ++ " WHERE " ++ identifier keyColumn ++
    " = %s"

/-- The rows whose key is one of several. -/
def selectAny (table : Table) : String :=
  "SELECT " ++ columnList ++ " FROM " ++ table.identity ++ " WHERE " ++ identifier keyColumn ++
    " = ANY(%s)"

/-- Inserts a row, or replaces the values of the one with the same key. -/
def upsert (table : Table) : String :=
  "INSERT INTO " ++ table.identity ++ " (" ++ columnList ++ ") VALUES (" ++
    ", ".intercalate (columns.map fun _ => "%s") ++ ") ON CONFLICT (" ++ identifier keyColumn ++
    ") DO UPDATE SET " ++
    ", ".intercalate (valueColumns.map fun column =>
      identifier column.1 ++ " = EXCLUDED." ++ identifier column.1)

def delete (table : Table) : String :=
  "DELETE FROM " ++ table.identity ++ " WHERE " ++ identifier keyColumn ++ " = %s"

/-- Loads rows from a stream. -/
def load (table : Table) : String :=
  "COPY " ++ table.identity ++ " (" ++ columnList ++ ") FROM STDIN BINARY"

end Table
end Replication
end VectorTiles
