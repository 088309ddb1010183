import VectorTiles.Http.Target
import VectorTiles.Json.Basic
import VectorTiles.Text.Capital

/-!
# Requests and responses

**Data.** Of a request count the host, the method, the target, and the two headers by which pages of
other origins ask for access. Of a response count the status, the content and the headers that say
how to go on.

**Results.**

* `Request.ofClient`: the request that a client sends.
* `Response.json`, `Response.detail`, `Response.text`, `Response.data`, `Response.bare`: the kinds
  of responses.
-/

namespace VectorTiles
namespace Http

/-- A request. -/
structure Request where
  host : String
  method : String
  target : Target
  /-- The origin of the page that asks. -/
  origin : Option String
  /-- The method for which such a page asks permission. -/
  requestedMethod : Option String
  deriving DecidableEq, Repr

/-- Why a request cannot be sent. -/
inductive SendFault where
  /-- The target is no address, or one that is too long. -/
  | malformedTarget
  /-- A header has characters outside ASCII. -/
  | unwritableHeader
  /-- Requests are not sent in the scheme of the target. -/
  | unknownScheme
  /-- The scheme of the target opens a socket and sends no request. -/
  | socketScheme
  deriving DecidableEq, Repr

/-- Whether the value of a header can be written. -/
def isHeaderText (text : String) : Bool :=
  text.toList.all (·.toNat < 128)

/-- Refuses a server to which no request can be sent. -/
def checkServer (server : Server) : Except SendFault Unit :=
  if server.scheme = "http" ∨ server.scheme = "https" then .ok ()
  else if server.scheme = "ws" ∨ server.scheme = "wss" then .error .socketScheme
  else .error .unknownScheme

/-- The request that a client sends when it is asked for a target, if that can be sent. It writes
methods in capitals. -/
def Request.ofClient (host method target : String) (origin requestedMethod : Option String) :
    Except SendFault Request := do
  let some target := Target.ofText? target | throw .malformedTarget
  if !(origin.all isHeaderText && requestedMethod.all isHeaderText) then throw .unwritableHeader
  if let some server := target.server then checkServer server
  return ⟨host, String.ofList (method.toList.map Text.capital), target, origin, requestedMethod⟩

/-- The content of a response. -/
inductive Body where
  | empty
  | json (value : Json)
  | bytes (content : List UInt8)

/-- A response. -/
structure Response where
  status : Nat
  contentType : Option String
  body : Body
  headers : List (String × String)

namespace Response

def json (status : Nat) (value : Json) : Response :=
  ⟨status, some "application/json", .json value, []⟩

/-- A response that says in words what was wrong. -/
def detail (status : Nat) (text : String) : Response :=
  json status (.object [("detail", .string text)])

def text (status : Nat) (content : String) : Response :=
  ⟨status, some "text/plain; charset=utf-8", .bytes (Text.encode content.toList), []⟩

def data (status : Nat) (contentType : String) (content : List UInt8) : Response :=
  ⟨status, some contentType, .bytes content, []⟩

/-- A response without content. -/
def bare (status : Nat) : Response :=
  ⟨status, none, .empty, []⟩

def withHeader (response : Response) (name value : String) : Response :=
  { response with headers := response.headers ++ [(name, value)] }

end Response
end Http
end VectorTiles
