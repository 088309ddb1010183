import VectorTiles.Proofs.Sql.Token
import VectorTiles.Replication.Statements

/-!
# What the statements of a header table say

**Grammar.** A command names a table by its schema and its name, and columns of it. A query asks for
all rows in descending order of a column, for the rows with a value in a column, or for those with one
of several values. An insertion has a placeholder for each of its columns, and says which columns of a
row with the same key take which of the new values.

**Results.**

* `Command.ofText?`: the command that a statement spells.
* `ofText?_selectAll`, `ofText?_upsert` and the others: the statements of a table spell commands on
  this table and on no other, whatever characters its names hold.
-/

namespace VectorTiles
namespace Replication

open Sql

section Defs

/-- Which rows a query asks for. -/
inductive Choice where
  | descending (column : String)
  | equal (column : String)
  | among (column : String)
  deriving DecidableEq, Repr

/-- A command on a table. -/
inductive Command where
  | select (table : Table) (columns : List String) (choice : Choice)
  | upsert (table : Table) (columns : List String) (key : String)
      (updates : List (String × String))
  | delete (table : Table) (column : String)
  | load (table : Table) (columns : List String)
  deriving DecidableEq, Repr

/-- Names with commas between them, and what stands behind. -/
def readNames : List Token → List String × List Token
  | .name first :: .mark ',' :: rest => (first :: (readNames rest).1, (readNames rest).2)
  | .name last :: rest => ([last], rest)
  | rest => ([], rest)

/-- How many placeholders with commas between them there are, and what stands behind. -/
def readPlaceholders : List Token → Nat × List Token
  | .mark '%' :: .word "s" :: .mark ',' :: rest =>
    ((readPlaceholders rest).1 + 1, (readPlaceholders rest).2)
  | .mark '%' :: .word "s" :: rest => (1, rest)
  | rest => (0, rest)

/-- Columns with the new values that they take. -/
def readUpdates? : List Token → Option (List (String × String))
  | [.name column, .mark '=', .word "EXCLUDED", .mark '.', .name value] => some [(column, value)]
  | .name column :: .mark '=' :: .word "EXCLUDED" :: .mark '.' :: .name value :: .mark ',' :: rest =>
    (readUpdates? rest).map ((column, value) :: ·)
  | _ => none

/-- The end of a query. -/
def Choice.ofTokens? : List Token → Option Choice
  | [.word "ORDER", .word "BY", .name column, .word "DESC"] => some (.descending column)
  | [.word "WHERE", .name column, .mark '=', .mark '%', .word "s"] => some (.equal column)
  | [.word "WHERE", .name column, .mark '=', .word "ANY", .mark '(', .mark '%', .word "s",
      .mark ')'] => some (.among column)
  | _ => none

/-- A query behind its first word. -/
def readSelect? (rest : List Token) : Option Command :=
  match readNames rest with
  | (columns, .word "FROM" :: .name schema :: .mark '.' :: .name name :: rest) =>
    (Choice.ofTokens? rest).map (.select ⟨schema, name⟩ columns)
  | _ => none

/-- An insertion behind the name of its table. -/
def readUpsert? (table : Table) (rest : List Token) : Option Command :=
  match readNames rest with
  | (columns, .mark ')' :: .word "VALUES" :: .mark '(' :: rest) =>
    match readPlaceholders rest with
    | (count, .mark ')' :: .word "ON" :: .word "CONFLICT" :: .mark '(' :: .name key :: .mark ')' ::
        .word "DO" :: .word "UPDATE" :: .word "SET" :: rest) =>
      if count = columns.length then (readUpdates? rest).map (.upsert table columns key) else none
    | _ => none
  | _ => none

/-- A bulk load behind the name of its table. -/
def readLoad? (table : Table) (rest : List Token) : Option Command :=
  match readNames rest with
  | (columns, [.mark ')', .word "FROM", .word "STDIN", .word "BINARY"]) =>
    some (.load table columns)
  | _ => none

def Command.ofTokens? : List Token → Option Command
  | .word "SELECT" :: rest => readSelect? rest
  | .word "INSERT" :: .word "INTO" :: .name schema :: .mark '.' :: .name name :: .mark '(' :: rest =>
    readUpsert? ⟨schema, name⟩ rest
  | [.word "DELETE", .word "FROM", .name schema, .mark '.', .name name, .word "WHERE", .name column,
      .mark '=', .mark '%', .word "s"] => some (.delete ⟨schema, name⟩ column)
  | .word "COPY" :: .name schema :: .mark '.' :: .name name :: .mark '(' :: rest =>
    readLoad? ⟨schema, name⟩ rest
  | _ => none

/-- The command that a statement spells. -/
def Command.ofText? (sql : String) : Option Command :=
  Command.ofTokens? (tokens sql.toList)

end Defs

section Statements

def columnTokens : List Token :=
  List.intercalate [.mark ','] (Table.columns.map fun column => [.name column])

theorem isPart_columnList : IsPart Table.columnList.toList columnTokens := by
  have htext : Table.columnList.toList =
      List.intercalate [',', ' '] (Table.columns.map fun column => (identifier column).toList) := by
    have hcomma : ", ".toList = [',', ' '] := rfl
    unfold Table.columnList
    simp only [String.toList_intercalate, List.map_map, Function.comp_def, hcomma]
  rw [htext]
  exact IsPart.intercalate IsPart.identifier _

variable (table : Table)

def Table.tokens : List Token :=
  [.name table.schema, .mark '.', .name table.name]

theorem isPart_identity : IsPart table.identity.toList table.tokens :=
  IsPart.qualified table.schema table.name

/-- A query behind the name of its table. -/
theorem ofText?_select {sql : String} {back : List Char} {choice : Choice}
    (hsql : sql.toList = "SELECT ".toList ++ (Table.columnList.toList ++
      (" FROM ".toList ++ table.identity.toList)) ++ back)
    (hback : back.head?.all isSeparator = true)
    (hchoice : Choice.ofTokens? (tokens back) = some choice) :
    Command.ofText? sql = some (.select table Table.columns choice) := by
  have hselect : IsFront "SELECT ".toList [.word "SELECT"] := fun _ => rfl
  have hfrom : IsFront " FROM ".toList [.word "FROM"] := fun _ => rfl
  have hpart := hselect.append
    (isPart_columnList.append (hfrom.append (isPart_identity table)) rfl)
  rw [Command.ofText?, hsql, hpart back hback]
  exact congrArg (Option.map (Command.select table Table.columns)) hchoice

theorem ofText?_selectAll : Command.ofText? table.selectAll =
    some (.select table Table.columns (.descending Table.keyColumn)) := by
  have hsql : table.selectAll.toList = "SELECT ".toList ++ (Table.columnList.toList ++
      (" FROM ".toList ++ table.identity.toList)) ++ (" ORDER BY ".toList ++
        ((identifier Table.keyColumn).toList ++ " DESC".toList)) := by
    unfold Table.selectAll
    simp only [String.toList_append, List.append_assoc]
  refine ofText?_select table hsql rfl ?_
  have horder : IsFront " ORDER BY ".toList [.word "ORDER", .word "BY"] := fun _ => rfl
  rw [horder, IsPart.identifier _ _ rfl]
  rfl

theorem ofText?_selectOne : Command.ofText? table.selectOne =
    some (.select table Table.columns (.equal Table.keyColumn)) := by
  have hsql : table.selectOne.toList = "SELECT ".toList ++ (Table.columnList.toList ++
      (" FROM ".toList ++ table.identity.toList)) ++ (" WHERE ".toList ++
        ((identifier Table.keyColumn).toList ++ " = %s".toList)) := by
    unfold Table.selectOne
    simp only [String.toList_append, List.append_assoc]
  refine ofText?_select table hsql rfl ?_
  have hwhere : IsFront " WHERE ".toList [.word "WHERE"] := fun _ => rfl
  rw [hwhere, IsPart.identifier _ _ rfl]
  rfl

theorem ofText?_selectAny : Command.ofText? table.selectAny =
    some (.select table Table.columns (.among Table.keyColumn)) := by
  have hsql : table.selectAny.toList = "SELECT ".toList ++ (Table.columnList.toList ++
      (" FROM ".toList ++ table.identity.toList)) ++ (" WHERE ".toList ++
        ((identifier Table.keyColumn).toList ++ " = ANY(%s)".toList)) := by
    unfold Table.selectAny
    simp only [String.toList_append, List.append_assoc]
  refine ofText?_select table hsql rfl ?_
  have hwhere : IsFront " WHERE ".toList [.word "WHERE"] := fun _ => rfl
  rw [hwhere, IsPart.identifier _ _ rfl]
  rfl

theorem ofText?_delete : Command.ofText? table.delete =
    some (.delete table Table.keyColumn) := by
  have hsql : table.delete.toList = "DELETE FROM ".toList ++ table.identity.toList ++
      (" WHERE ".toList ++ ((identifier Table.keyColumn).toList ++ " = %s".toList)) := by
    unfold Table.delete
    simp only [String.toList_append, List.append_assoc]
  have hdelete : IsFront "DELETE FROM ".toList [.word "DELETE", .word "FROM"] := fun _ => rfl
  have hwhere : IsFront " WHERE ".toList [.word "WHERE"] := fun _ => rfl
  rw [Command.ofText?, hsql, hdelete.append (isPart_identity table) _ rfl, hwhere,
    IsPart.identifier _ _ rfl]
  rfl

theorem ofText?_load : Command.ofText? table.load = some (.load table Table.columns) := by
  have hsql : table.load.toList = "COPY ".toList ++ table.identity.toList ++
      (" (".toList ++ (Table.columnList.toList ++ ") FROM STDIN BINARY".toList)) := by
    unfold Table.load
    simp only [String.toList_append, List.append_assoc]
  have hcopy : IsFront "COPY ".toList [.word "COPY"] := fun _ => rfl
  have hopen : IsFront " (".toList [.mark '('] := fun _ => rfl
  rw [Command.ofText?, hsql, hcopy.append (isPart_identity table) _ rfl, hopen,
    isPart_columnList _ rfl]
  rfl

/-- Every column beside the key takes its own new value. -/
def ownUpdates : List (String × String) :=
  Table.valueColumns.map fun column => (column.1, column.1)

/-- The tokens of a column that takes its own new value. -/
def updateTokens (column : String) : List Token :=
  [.name column, .mark '=', .word "EXCLUDED", .mark '.', .name column]

theorem isPart_update (column : String) :
    IsPart ((identifier column).toList ++ (" = EXCLUDED.".toList ++ (identifier column).toList))
      (updateTokens column) := by
  have hequal : IsFront " = EXCLUDED.".toList [.mark '=', .word "EXCLUDED", .mark '.'] :=
    fun _ => rfl
  exact (IsPart.identifier column).append (hequal.append (IsPart.identifier column)) rfl

theorem ofText?_upsert : Command.ofText? table.upsert =
    some (.upsert table Table.columns Table.keyColumn ownUpdates) := by
  have hinsert : IsFront "INSERT INTO ".toList [.word "INSERT", .word "INTO"] := fun _ => rfl
  have hopen : IsFront " (".toList [.mark '('] := fun _ => rfl
  have hvalues : IsFront ") VALUES (".toList [.mark ')', .word "VALUES", .mark '('] := fun _ => rfl
  have hplaceholders := IsPart.intercalate (fun _ : String => IsPart.placeholder) Table.columns
  have hconflict : IsFront ") ON CONFLICT (".toList
      [.mark ')', .word "ON", .word "CONFLICT", .mark '('] := fun _ => rfl
  have hset : IsFront ") DO UPDATE SET ".toList
      [.mark ')', .word "DO", .word "UPDATE", .word "SET"] := fun _ => rfl
  have hupdates := IsPart.intercalate isPart_update (Table.valueColumns.map (·.1))
  have hsql : table.upsert.toList = "INSERT INTO ".toList ++ table.identity.toList ++
      (" (".toList ++ (Table.columnList.toList ++ (") VALUES (".toList ++
        (List.intercalate [',', ' '] (Table.columns.map fun _ => ['%', 's']) ++
          (") ON CONFLICT (".toList ++ ((identifier Table.keyColumn).toList ++
            (") DO UPDATE SET ".toList ++ List.intercalate [',', ' ']
              ((Table.valueColumns.map (·.1)).map fun column =>
                (identifier column).toList ++
                  (" = EXCLUDED.".toList ++ (identifier column).toList))))))))) := by
    have hcomma : ", ".toList = [',', ' '] := rfl
    have hplaceholder : "%s".toList = ['%', 's'] := rfl
    unfold Table.upsert
    simp only [String.toList_append, String.toList_intercalate, List.map_map, Function.comp_def,
      hcomma, hplaceholder, List.append_assoc]
  rw [Command.ofText?, hsql, hinsert.append (isPart_identity table) _ rfl, hopen,
    isPart_columnList _ rfl, hvalues, hplaceholders _ rfl, hconflict, IsPart.identifier _ _ rfl,
    hset, hupdates.tokens_eq]
  rfl

end Statements

end Replication
end VectorTiles
