import VectorTiles.Text.Alphanumeric

/-!
# Lexemes of a query

The text of a query is a sequence of plain characters and of regions in which characters stand for
themselves: quoted texts, escape strings, dollar-quoted bodies and comments.

**Rules.** A region is opened at the first place where one can be.

* `'…'` and `"…"`: a quote is written twice inside.
* `E'…'`, with the letter in either case and no name in front of it: a backslash keeps its meaning
  from the next character, and a quote may also be written twice.
* `$tag$…$tag$`: the tag is empty or a name in ASCII, and no name stands in front of the first
  dollar sign. The first repetition of the tag closes it.
* `-- …`: up to the end of the line or of the text.
* `/* … */`: up to the first `*/`.

**Algorithm.** A lexeme is read from the front of the text. What has to be known of the text in
front of it is whether a name ends there, and whether that name is the lone letter of an escape
string.

**Results.**

* `Lexeme.text`: the characters of a lexeme.
* `Scan.ofText`: the lexemes of a text, and the region that is still open at its end.
-/

namespace VectorTiles
namespace Sql

section Types

/-- A plain character, or a region with the characters inside it. -/
inductive Lexeme where
  | plain (c : Char)
  | quoted (quote : Char) (body : List Char)
  | escape (body : List Char)
  | dollar (tag body : List Char)
  | lineComment (body : List Char) (ended : Bool)
  | blockComment (body : List Char)
  deriving DecidableEq, Repr

/-- A region that the end of the text leaves open. -/
inductive OpenRegion where
  | quote (mark : Char)
  | dollar
  | comment
  deriving DecidableEq, Repr

/-- What ends directly before a place of the text. -/
inductive Context where
  /-- No name. -/
  | fresh
  /-- A name that is the letter E alone. -/
  | escapeMark
  /-- Any other name. -/
  | word
  deriving DecidableEq, Repr

/-- The lexemes of a text, up to its end or up to a region that has none. -/
structure Scan where
  lexemes : List Lexeme
  openRegion : Option OpenRegion
  deriving DecidableEq, Repr

end Types

section Lexemes

/-- The mark at both ends of a dollar-quoted body. -/
def dollarMark (tag : List Char) : List Char :=
  '$' :: tag ++ ['$']

/-- The characters of a lexeme in the text of the query. The letter in front of an escape string
is a plain character of its own. -/
def Lexeme.text : Lexeme → List Char
  | plain c => [c]
  | quoted quote body => quote :: body ++ [quote]
  | escape body => '\'' :: body ++ ['\'']
  | dollar tag body => dollarMark tag ++ body ++ dollarMark tag
  | lineComment body ended => '-' :: '-' :: body ++ (if ended then ['\n'] else [])
  | blockComment body => '/' :: '*' :: body ++ ['*', '/']

def Lexeme.length (lexeme : Lexeme) : Nat :=
  lexeme.text.length

theorem Lexeme.length_pos (lexeme : Lexeme) : 0 < lexeme.length := by
  cases lexeme <;> simp [Lexeme.length, Lexeme.text, dollarMark]

/-- The context after a plain character. -/
def Context.afterChar (context : Context) (c : Char) : Context :=
  if !Text.isIdentifierChar c then .fresh
  else if context = .fresh ∧ (c = 'e' ∨ c = 'E') then .escapeMark
  else .word

def Context.after (context : Context) : Lexeme → Context
  | .plain c => context.afterChar c
  | .dollar _ _ => .word
  | _ => .fresh

end Lexemes

section Regions

/-- The text up to a lone closing quote; quotes written twice belong to it. -/
def quotedBody? (quote : Char) : List Char → Option (List Char)
  | [] => none
  | [c] => if c = quote then some [] else none
  | c :: d :: rest =>
    if c = quote then
      if d = quote then (quotedBody? quote rest).map (fun body => quote :: quote :: body)
      else some []
    else (quotedBody? quote (d :: rest)).map (c :: ·)

/-- The text up to a closing quote that is neither written twice nor escaped by a backslash. -/
def escapeBody? : List Char → Option (List Char)
  | [] => none
  | [c] => if c = '\'' then some [] else none
  | c :: d :: rest =>
    if c = '\\' then (escapeBody? rest).map (fun body => '\\' :: d :: body)
    else if c = '\'' then
      if d = '\'' then (escapeBody? rest).map (fun body => '\'' :: '\'' :: body)
      else some []
    else (escapeBody? (d :: rest)).map (c :: ·)

/-- The text in front of the first occurrence of a mark. -/
def before? (mark : List Char) : List Char → Option (List Char)
  | [] => if mark.isEmpty then some [] else none
  | c :: rest =>
    if mark.isPrefixOf (c :: rest) then some [] else (before? mark rest).map (c :: ·)

/-- A character that may begin a tag. -/
def isTagStart (c : Char) : Bool :=
  c.isAlpha || c == '_'

/-- A character that may continue a tag. -/
def isTagChar (c : Char) : Bool :=
  c.isAlphanum || c == '_'

/-- The tag after a dollar sign, if a mark begins there. -/
def tag? (cs : List Char) : Option (List Char) :=
  let tag := cs.takeWhile isTagChar
  if (cs.drop tag.length).head? = some '$' ∧ tag.head?.all isTagStart then some tag else none

/-- The lexeme that begins with the character `c` and goes on in the text `rest`. -/
def readLexeme (context : Context) (c : Char) (rest : List Char) : Except OpenRegion Lexeme :=
  if c = '\'' ∧ context = .escapeMark then
    match escapeBody? rest with
    | some body => .ok (.escape body)
    | none => .error (.quote c)
  else if c = '\'' ∨ c = '"' then
    match quotedBody? c rest with
    | some body => .ok (.quoted c body)
    | none => .error (.quote c)
  else if c = '$' ∧ context = .fresh then
    match tag? rest with
    | some tag =>
      match before? (dollarMark tag) (rest.drop (tag.length + 1)) with
      | some body => .ok (.dollar tag body)
      | none => .error .dollar
    | none => .ok (.plain c)
  else if c = '-' ∧ rest.head? = some '-' then
    match before? ['\n'] rest.tail with
    | some body => .ok (.lineComment body true)
    | none => .ok (.lineComment rest.tail false)
  else if c = '/' ∧ rest.head? = some '*' then
    match before? ['*', '/'] rest.tail with
    | some body => .ok (.blockComment body)
    | none => .error .comment
  else .ok (.plain c)

end Regions

section Scanning

/-- The lexemes of a text that begins in the given context. -/
def Scan.inContext (context : Context) (cs : List Char) : Scan :=
  match cs with
  | [] => ⟨[], none⟩
  | c :: rest =>
    match readLexeme context c rest with
    | .error region => ⟨[], some region⟩
    | .ok lexeme =>
      let scan := Scan.inContext (context.after lexeme) ((c :: rest).drop lexeme.length)
      ⟨lexeme :: scan.lexemes, scan.openRegion⟩
termination_by cs.length
decreasing_by
  have := lexeme.length_pos
  simp only [List.length_drop, List.length_cons]
  omega

/-- The lexemes of a whole text. -/
def Scan.ofText (cs : List Char) : Scan :=
  Scan.inContext .fresh cs

end Scanning

end Sql
end VectorTiles
