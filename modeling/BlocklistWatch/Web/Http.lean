import BlocklistWatch.Web.Url

/-!
# Requests and answers

What is sent to a server and what it says. A server is given by how it answers and what it
remembers; it may also drop the connection.

* `HttpRequest` and `HttpResponse` are what goes back and forth, `HttpServer` is the other side.
* `basicAuthorization` names the user and the secret.
-/

namespace BlocklistWatch.Web

/-- A request; one with a body posts it as JSON. -/
structure HttpRequest where
  target : String
  authorization : String
  userAgent : String
  body : Option String
deriving DecidableEq, Repr

def HttpRequest.method (r : HttpRequest) : String :=
  if r.body.isSome then "POST" else "GET"

def HttpRequest.contentType? (r : HttpRequest) : Option String :=
  r.body.map fun _ => "application/json"

structure HttpResponse where
  status : Nat
  body : String
deriving DecidableEq, Repr, Inhabited

def HttpResponse.isSuccess (r : HttpResponse) : Bool :=
  200 ≤ r.status && r.status < 300

/-- The other side: its answer, none if the connection is dropped, and what it remembers then. -/
abbrev HttpServer (σ : Type) := HttpRequest → σ → Option HttpResponse × σ

def basicAuthorization (user secret : String) : String :=
  "Basic " ++ String.ofList (base64 (utf8Bytes (user.toList ++ ':' :: secret.toList)))

def isHeaderChar (c : Char) : Bool :=
  c == '\t' || (0x20 ≤ c.toNat && c.toNat != 0x7F)

end BlocklistWatch.Web
