import VectorTiles.Http.Authority
import VectorTiles.Text.Split
import VectorTiles.Text.Utf8

/-!
# Request targets

The target of a request is the path and perhaps a query, as a client is asked for it.

**Rules.** A target with a scheme and a host is sent to that host. In other targets a scheme or a
host does not count, nor do slashes in front of the first segment. Before the request is sent, a
fragment is dropped and segments of one or two points are resolved. Percent escapes in the path are
replaced by the characters that they encode, on the client and once more on the server, so an
escaped percent sign may begin another escape. Bytes that encode no character become U+FFFD. A
target with control characters cannot be sent, nor one that is too long or whose path would be taken
for something else.

**Results.**

* `Target.ofText?`: path and query of a target, and the server that it names.
* `escapePath`, `escapeAddress`: a path and an address with percent escapes for what may not stand
  in them.
-/

namespace VectorTiles
namespace Http

/-- A server that a target names. -/
structure Server where
  /-- The scheme in lower case. -/
  scheme : String
  /-- The host and the port. -/
  place : String
  deriving DecidableEq, Repr

def Server.display (server : Server) : String :=
  server.scheme ++ "://" ++ server.place

/-- The path of a request, without escapes, and its query. -/
structure Target where
  /-- The server that the target names, if it names a scheme and a host. -/
  server : Option Server
  path : String
  query : Option String
  deriving DecidableEq, Repr

section Escapes

/-- Replaces percent escapes; `pending` are the bytes of the run of ASCII that is being read, last
first. Only bytes of one run encode a character together. -/
def unescapeFrom (pending : List UInt8) : List Char → List Char
  | [] => Text.decodeLenient pending.reverse
  | '%' :: a :: b :: rest =>
    match Text.hexValue? a, Text.hexValue? b with
    | some high, some low => unescapeFrom (UInt8.ofNat (16 * high + low) :: pending) rest
    | _, _ => unescapeFrom (0x25 :: pending) (a :: b :: rest)
  | c :: rest =>
    if c.toNat < 128 then unescapeFrom (UInt8.ofNat c.toNat :: pending) rest
    else Text.decodeLenient pending.reverse ++ c :: unescapeFrom [] rest

/-- The text with its percent escapes replaced. -/
def unescape (cs : List Char) : List Char :=
  unescapeFrom [] cs

/-- The characters that stand for themselves in an address. -/
def isPlain (c : Char) : Bool :=
  c.isAlphanum || "-._~:/%#?=@[]!$&'()*+,;".toList.contains c

/-- A percent escape in upper case. -/
def escapeByte (b : UInt8) : List Char :=
  '%' :: (Text.hexOfWidth 2 b.toNat).map Char.toUpper

/-- The text with escapes for all characters that do not stand for themselves. -/
def escapeAddress (cs : List Char) : List Char :=
  cs.flatMap fun c => if isPlain c then [c] else (Text.encode [c]).flatMap escapeByte

/-- A path with escapes for the characters that would end it in an address. -/
def escapePath (cs : List Char) : List Char :=
  cs.flatMap fun c =>
    if c = '?' ∨ c = '#' then (Text.encode [c]).flatMap escapeByte else [c]

end Escapes

section Segments

/-- The segments between slashes. -/
def segments (path : List Char) : List (List Char) :=
  Text.splitBy (· == '/') path

/-- Resolves segments of one or two points; `kept` are the segments so far, last first. -/
def resolvePoints (kept : List (List Char)) : List (List Char) → List (List Char)
  | [] => kept.reverse
  | ['.'] :: rest => resolvePoints kept rest
  | ['.', '.'] :: rest =>
    resolvePoints (if kept = [[]] then kept else kept.tail) rest
  | segment :: rest => resolvePoints (segment :: kept) rest

/-- A path without segments of one or two points. -/
def withoutPoints (path : List Char) : List Char :=
  List.intercalate ['/'] (resolvePoints [] (segments path))

end Segments

section Sending

/-- The length of the longest target that can be sent. -/
def lengthLimit : Nat := 65536

/-- Whether a text can be read as an address. -/
def isReadable (cs : List Char) : Bool :=
  cs.length ≤ lengthLimit && cs.all fun c => 0x20 ≤ c.toNat && c.toNat != 0x7f

/-- Whether a path can stand in an address that names neither a scheme nor an authority. -/
def isRelativePath (path : List Char) : Bool :=
  !("//".toList.isPrefixOf path) && path.head? != some ':'

/-- The server that a scheme and an authority name, if both are given. -/
def serverOf? (scheme : List Char) (authority : Authority) : Option Server :=
  if scheme.isEmpty || authority.host.isEmpty then none
  else some ⟨String.ofList (scheme.map Char.toLower), String.ofList authority.place⟩

/-- The path and the query of a target, if it can be read. -/
def Target.ofText? (text : String) : Option Target := do
  let cs := text.toList
  guard (isReadable cs)
  let (scheme, rest) := splitScheme (cs.takeWhile (· != '#'))
  let (authority, rest) := splitAuthority rest
  let (path, rest) := rest.span (· != '?')
  let authority ← Authority.ofText? scheme authority
  let isRelative := scheme.isEmpty && authority.isBlank
  guard (!isRelative || isRelativePath path)
  let path := if isRelative then path else withoutPoints path
  let server := serverOf? scheme authority
  let path :=
    if server.isNone then withoutPoints ('/' :: path.dropWhile (· == '/'))
    else if path.isEmpty then ['/']
    else path
  let query := match rest with
    | _ :: q => if q.isEmpty then none else some (String.ofList q)
    | [] => none
  return ⟨server, String.ofList (unescape (unescape path)), query⟩

end Sending

end Http
end VectorTiles
