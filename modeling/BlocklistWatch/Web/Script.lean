import BlocklistWatch.Json.Value
import BlocklistWatch.Web.Http

/-!
# Servers that follow a script

A server that gives prepared answers one after another and remembers what it was asked.

* `ServerScript.server` is that server, `HttpRequest.json` the record of a request.
-/

namespace BlocklistWatch.Web

def HttpRequest.json (r : HttpRequest) : Json.Value :=
  .object ([
    ("method", .string r.method),
    ("target", .string r.target),
    ("authorization", .string r.authorization),
    ("user-agent", .string r.userAgent),
    ("body", .string (r.body.getD ""))] ++
    (r.contentType?.map fun t => ("content-type", Json.Value.string t)).toList)

/-- The answers that are left, none for a dropped connection, and the requests so far, the last one
first. -/
structure ServerScript where
  left : List (Option HttpResponse)
  seen : List HttpRequest
deriving DecidableEq, Repr

namespace ServerScript

def exhausted : HttpResponse :=
  ⟨404, "script exhausted"⟩

def server : HttpServer ServerScript := fun request s =>
  match s.left with
  | [] => (some exhausted, { s with seen := request :: s.seen })
  | answer :: left => (answer, ⟨left, request :: s.seen⟩)

def requests (s : ServerScript) : List HttpRequest :=
  s.seen.reverse

def forgetting (s : ServerScript) : ServerScript :=
  { s with seen := [] }

end ServerScript

end BlocklistWatch.Web
