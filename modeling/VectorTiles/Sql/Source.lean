import VectorTiles.Sql.Lexeme
import VectorTiles.Text.Blank

/-!
# Source queries

A source query is embedded between parentheses in a larger statement. It may be embedded when it
is not blank, leaves no region open, holds no plain semicolon, and its plain parentheses match
among themselves.

**Algorithm.** One pass over the lexemes with the number of open parentheses. What is wrong first
in the text is reported, with its offset in characters.

**Results.**

* `checkSource`: the test.
* `SourceFault.message`: the wording of a refusal.
-/

namespace VectorTiles
namespace Sql

/-- Why a query cannot be embedded. -/
inductive SourceFault where
  | blank
  | openRegion (region : OpenRegion) (offset : Nat)
  | unmatchedClosing (offset : Nat)
  | terminator (offset : Nat)
  | unclosed (count : Nat)
  deriving DecidableEq, Repr

/-- The wording of a refusal. -/
def SourceFault.message : SourceFault → String
  | blank => "source query is empty"
  | openRegion (.quote mark) offset =>
    "unterminated " ++ String.ofList [mark] ++ " quote at offset " ++ toString offset
  | openRegion .dollar offset =>
    "unterminated dollar-quoted string at offset " ++ toString offset
  | openRegion .comment offset => "unterminated comment at offset " ++ toString offset
  | unmatchedClosing offset =>
    "unbalanced ')' at offset " ++ toString offset ++ " in source query"
  | terminator offset =>
    "statement terminator at offset " ++ toString offset ++ " in source query"
  | unclosed count => toString count ++ " unclosed '(' in source query"

/-- Checks what lies behind an offset at which `depth` parentheses are open. -/
def checkNesting (openRegion : Option OpenRegion) (offset depth : Nat) :
    List Lexeme → Except SourceFault Unit
  | [] =>
    match openRegion with
    | some region => .error (.openRegion region offset)
    | none => if depth = 0 then .ok () else .error (.unclosed depth)
  | lexeme :: rest =>
    let next := offset + lexeme.length
    match lexeme with
    | .plain '(' => checkNesting openRegion next (depth + 1) rest
    | .plain ')' =>
      match depth with
      | 0 => .error (.unmatchedClosing offset)
      | depth + 1 => checkNesting openRegion next depth rest
    | .plain ';' => .error (.terminator offset)
    | _ => checkNesting openRegion next depth rest

/-- Whether a text may be embedded as a source query. -/
def checkSource (cs : List Char) : Except SourceFault Unit :=
  if (Text.strip cs).isEmpty then .error .blank
  else
    let scan := Scan.ofText cs
    checkNesting scan.openRegion 0 0 scan.lexemes

end Sql
end VectorTiles
