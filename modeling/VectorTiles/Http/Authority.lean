import VectorTiles.Http.Host
import VectorTiles.Text.Numeral

/-!
# Schemes and authorities

What an address says in front of its path: the scheme, and after two slashes the authority, which
is a host with perhaps a user in front and a port behind.

**Rules.** The user ends at the last `@`. A host in square brackets may hold colons; any other ends
at the first colon. A port is a whole number, and the port that belongs to the scheme does not
count.

**Results.**

* `splitScheme`, `splitAuthority`: the parts in front of a path.
* `Authority.ofText?`: the parts of an authority.
* `Authority.place`: host and port as they are written.
-/

namespace VectorTiles
namespace Http

section Parts

def isSchemeChar (c : Char) : Bool :=
  c.isAlphanum || c == '+' || c == '.' || c == '-'

/-- Splits a scheme, which may be empty, off with its colon. -/
def splitScheme (cs : List Char) : List Char × List Char :=
  match cs.span isSchemeChar with
  | (scheme, ':' :: rest) => if scheme.head?.all Char.isAlpha then (scheme, rest) else ([], cs)
  | _ => ([], cs)

/-- Splits the authority off that two slashes introduce. -/
def splitAuthority (cs : List Char) : List Char × List Char :=
  match cs with
  | '/' :: '/' :: rest => rest.span fun c => c != '/' && c != '?'
  | _ => ([], cs)

end Parts

/-- The parts of an authority. -/
structure Authority where
  user : List Char
  /-- The host as it is sent. -/
  host : List Char
  port : Option Int
  deriving DecidableEq, Repr

namespace Authority

def splitHost (cs : List Char) : List Char × List Char :=
  let bracketed := (cs.reverse.dropWhile (· != ']')).reverse
  if cs.head? = some '[' && !bracketed.isEmpty then (bracketed, cs.drop bracketed.length)
  else cs.span (· != ':')

def standardPort? (scheme : List Char) : Option Int :=
  match String.ofList scheme with
  | "ftp" => some 21
  | "http" | "ws" => some 80
  | "https" | "wss" => some 443
  | _ => none

/-- The port that characters spell, if they spell one or none. -/
def portOf? (scheme cs : List Char) : Option (Option Int) :=
  if cs.isEmpty then some none
  else
    (Text.integerOf? Text.decimalDigit? cs).map fun port =>
      if standardPort? scheme = some port then none else some port

/-- The parts of an authority behind a scheme, if it is one. -/
def ofText? (scheme cs : List Char) : Option Authority := do
  let behind := (cs.reverse.takeWhile (· != '@')).reverse
  let user := (cs.take (cs.length - behind.length)).dropLast
  let (host, rest) := splitHost behind
  let host ← hostOf? host
  let port ← portOf? scheme (if rest.head? = some ':' then rest.tail else rest)
  return ⟨user, host, port⟩

/-- Whether an authority says nothing. -/
def isBlank (authority : Authority) : Bool :=
  authority.user.isEmpty && authority.host.isEmpty && authority.port.isNone

/-- The host and the port as they are written. -/
def place (authority : Authority) : List Char :=
  authority.host ++
    match authority.port with
    | some port => ':' :: (toString port).toList
    | none => []

end Authority

end Http
end VectorTiles
