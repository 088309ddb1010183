import VectorTiles.Text.Blank

/-!
# Environment files

**Input.** A text of lines that each bind a name to a value.

**Grammar.** A byte order mark in front of the text does not count. A name is a run of characters
other than blanks, `=` and `#`, or stands between single quotes; the word `export` may precede it. A
value stands between quotes of either kind and may then go on over several lines, or it is the rest
of the line up to a comment. A comment begins with `#`; behind a value, blanks have to precede it. A
line of another form is skipped from the place where it goes wrong. Within quotes a quote behind a
backslash does not close, a backslash escapes the quote and itself, and within double quotes it also
forms the usual control characters.

**Rules.** A value may refer to names by a dollar sign and braces, with a default behind `:-`. A
name means the value that it has been bound to earlier in the file, or else the one that it has in
the environment. Of several bindings of a name the last one counts.

**Results.**

* `EnvFile.bindings`: the bindings of a text.
* `EnvFile.values`: the values of the names.
-/

namespace VectorTiles
namespace EnvFile

/-- A name and its value, if it is given one. -/
abbrev Binding := String × Option String

section Characters

/-- A blank that does not end the line. -/
def isInlineBlank (c : Char) : Bool :=
  Text.isBlank c && c != '\n'

/-- The text with every line end written as a line feed. -/
def unifyLineEnds : List Char → List Char
  | '\r' :: '\n' :: rest => '\n' :: unifyLineEnds rest
  | '\r' :: rest => '\n' :: unifyLineEnds rest
  | c :: rest => c :: unifyLineEnds rest
  | [] => []

/-- The text behind the end of the line. -/
def nextLine (cs : List Char) : List Char :=
  (cs.dropWhile (· != '\n')).drop 1

/-- The text behind the blanks of a line. -/
def skipInline (cs : List Char) : List Char :=
  cs.dropWhile isInlineBlank

/-- The text behind a comment, if there is one. -/
def skipComment (cs : List Char) : List Char :=
  match skipInline cs with
  | '#' :: rest => rest.dropWhile (· != '\n')
  | _ => cs

/-- The text behind the word `export`, if blanks follow it. -/
def skipExport (cs : List Char) : List Char :=
  let word := "export".toList
  if word.isPrefixOf cs && ((cs.drop word.length).head?.any isInlineBlank) then
    skipInline (cs.drop word.length)
  else cs

end Characters

section Quotes

/-- What stands before the closing quote, and what stands behind it. A character behind a backslash
does not close. -/
def closeQuote? (quote : Char) : List Char → Option (List Char × List Char)
  | [] => none
  | [c] => if c = quote then some ([], []) else none
  | c :: d :: rest =>
    if c = quote then some ([], d :: rest)
    else if c = '\\' then
      (closeQuote? quote rest).map fun (body, rest) => (c :: d :: body, rest)
    else (closeQuote? quote (d :: rest)).map fun (body, rest) => (c :: body, rest)

/-- The character that a backslash makes of another one. -/
def escaped? (quote c : Char) : Option Char :=
  if c = '\\' ∨ c = '\'' then some c
  else if quote = '\'' then none
  else
    match c with
    | '"' => some '"'
    | 'a' => some '\x07'
    | 'b' => some '\x08'
    | 'f' => some '\x0c'
    | 'n' => some '\n'
    | 'r' => some '\r'
    | 't' => some '\t'
    | 'v' => some '\x0b'
    | _ => none

/-- The text with its escapes replaced; a backslash in front of another character stays. -/
def unescape (quote : Char) : List Char → List Char
  | [] => []
  | [c] => [c]
  | c :: d :: rest =>
    if c = '\\' then
      match escaped? quote d with
      | some e => e :: unescape quote rest
      | none => c :: unescape quote (d :: rest)
    else c :: unescape quote (d :: rest)

end Quotes

section Bindings

/-- A name, or none in front of a comment, and the text behind it. -/
def readName? (cs : List Char) : Option (Option String × List Char) :=
  match cs with
  | '#' :: _ => some (none, cs)
  | '\'' :: rest =>
    match rest.span (· != '\'') with
    | (c :: name, _ :: rest) => some (some (String.ofList (c :: name)), rest)
    | _ => none
  | _ =>
    match cs.span fun c => c != '=' && c != '#' && !Text.isBlank c with
    | ([], _) => none
    | (name, rest) => some (some (String.ofList name), rest)

/-- The part of a line in front of a comment, which begins behind a blank. -/
def beforeComment : List Char → List Char
  | [] => []
  | c :: rest =>
    if Text.isBlank c && (rest.dropWhile Text.isBlank).head? = some '#' then []
    else c :: beforeComment rest

/-- The value behind the equals sign, and the text behind it. -/
def readValue? (cs : List Char) : Option (String × List Char) :=
  match skipInline cs with
  | '\'' :: rest =>
    (closeQuote? '\'' rest).map fun (body, rest) => (String.ofList (unescape '\'' body), rest)
  | '"' :: rest =>
    (closeQuote? '"' rest).map fun (body, rest) => (String.ofList (unescape '"' body), rest)
  | _ =>
    let (line, rest) := cs.span (· != '\n')
    some (String.ofList (Text.strip (beforeComment line)), rest)

def endBinding (name value : Option String) (cs : List Char) : Option Binding × List Char :=
  let cs := skipComment cs
  match skipInline cs with
  | [] => (name.map (·, value), [])
  | '\n' :: rest => (name.map (·, value), rest)
  | _ => (none, nextLine cs)

/-- The binding at the beginning of a text, if it is in order and not a mere comment, and the text
behind its line. -/
def readBinding (cs : List Char) : Option Binding × List Char :=
  let cs := skipExport cs
  match readName? cs with
  | none => (none, nextLine cs)
  | some (name, rest) =>
    match skipInline rest with
    | '=' :: rest =>
      match readValue? rest with
      | none => (none, nextLine rest)
      | some (value, rest) => endBinding name (some value) rest
    | rest => endBinding name none rest

/-- The bindings of a text. Each one is paid from the fuel. -/
def readBindings : Nat → List Char → List Binding
  | 0, _ => []
  | fuel + 1, cs =>
    match cs.dropWhile Text.isBlank with
    | [] => []
    | cs =>
      let (binding, rest) := readBinding cs
      binding.toList ++ readBindings fuel rest

/-- The text without a byte order mark in front. -/
def withoutMark : List Char → List Char
  | '\uFEFF' :: rest => rest
  | cs => cs

/-- The bindings of a text, before references are replaced. -/
def bindings (text : String) : List Binding :=
  let cs := unifyLineEnds (withoutMark text.toList)
  readBindings (cs.length + 1) cs

end Bindings

section References

/-- Sets the value of a name, in its old place if it has one. -/
def bind (name : String) (value : Option String) : List Binding → List Binding
  | [] => [(name, value)]
  | (other, old) :: rest =>
    if other = name then (name, value) :: rest else (other, old) :: bind name value rest

/-- What stands for a reference: the value of the name, or the default when the name has never
been bound. -/
def resolve (known : List Binding) (name default : List Char) : List Char :=
  match known.lookup (String.ofList name) with
  | some value => (value.getD "").toList
  | none => default

/-- The name and the default of the reference behind an opening brace, and the text behind it. -/
def readReference? (cs : List Char) : Option (List Char × List Char × List Char) :=
  match cs.span fun c => c != '}' && c != ':' with
  | (name, '}' :: rest) => some (name, [], rest)
  | (name, ':' :: '-' :: rest) =>
    match rest.span (· != '}') with
    | (default, _ :: rest) => some (name, default, rest)
    | _ => none
  | _ => none

/-- The text with its references replaced. Each character is paid from the fuel. -/
def replaceReferences (known : List Binding) : Nat → List Char → List Char
  | 0, cs => cs
  | _, [] => []
  | fuel + 1, '$' :: '{' :: rest =>
    match readReference? rest with
    | some (name, default, rest) =>
      resolve known name default ++ replaceReferences known fuel rest
    | none => '$' :: replaceReferences known fuel ('{' :: rest)
  | fuel + 1, c :: rest => c :: replaceReferences known fuel rest

/-- A value with its references replaced. -/
def interpolate (known : List Binding) (value : String) : String :=
  String.ofList (replaceReferences known (value.toList.length + 1) value.toList)

/-- Replaces the references in bindings one after the other; `earlier` are the values of the
bindings before. -/
def resolveBindings (environment : List (String × String)) (earlier : List Binding) :
    List Binding → List Binding
  | [] => earlier
  | (name, value) :: rest =>
    let known := earlier ++ environment.map fun entry => (entry.1, some entry.2)
    resolveBindings environment (bind name (value.map (interpolate known)) earlier) rest

/-- The values of the names in a text, which may refer to names of the environment. -/
def values (environment : List (String × String)) (text : String) : List Binding :=
  resolveBindings environment [] (bindings text)

end References

end EnvFile
end VectorTiles
