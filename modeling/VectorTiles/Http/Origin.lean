import VectorTiles.Http.Message

/-!
# Pages of other origins

A page that was loaded from another origin may read a response only when the response allows it. A
page may ask in advance, with the method OPTIONS and the method that it wants to use.

**Rules.** The origins that are allowed are listed; a star among them stands for all. Only GET is
allowed. A response to a request without origin says nothing about origins.

**Results.**

* `preflight?`: the response to a request that asks in advance.
* `allowOrigin`: a response with the permission that the origin of its request has.
-/

namespace VectorTiles
namespace Http

/-- Names of headers. -/
def allowOriginHeader : String := "access-control-allow-origin"

def allowMethodsHeader : String := "access-control-allow-methods"

def allowedMethod : String := "GET"

/-- What a response says about an origin, if the origin is allowed. -/
def grant? (allowed : List String) (origin : String) : Option String :=
  if allowed.contains "*" then some "*"
  else if allowed.contains origin then some origin
  else none

def withGrant (allowed : List String) (origin : String) (response : Response) : Response :=
  match grant? allowed origin with
  | some value => response.withHeader allowOriginHeader value
  | none => response

/-- The parts of a request in advance that are not allowed. -/
def refusals (allowed : List String) (origin method : String) : List String :=
  (if (grant? allowed origin).isSome then [] else ["origin"]) ++
    (if method = allowedMethod then [] else ["method"])

/-- The response to a request that asks in advance; other requests are none. -/
def preflight? (allowed : List String) (request : Request) : Option Response :=
  match request.method, request.origin, request.requestedMethod with
  | "OPTIONS", some origin, some method =>
    let response := match refusals allowed origin method with
      | [] => Response.text 200 "OK"
      | parts => Response.text 400 ("Disallowed CORS " ++ ", ".intercalate parts)
    some (withGrant allowed origin (response.withHeader allowMethodsHeader allowedMethod))
  | _, _, _ => none

/-- The response with the permission that the origin of the request has. -/
def allowOrigin (allowed : List String) (request : Request) (response : Response) : Response :=
  match request.origin with
  | some origin => withGrant allowed origin response
  | none => response

end Http
end VectorTiles
