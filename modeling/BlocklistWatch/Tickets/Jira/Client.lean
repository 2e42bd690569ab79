import BlocklistWatch.Config.Settings
import BlocklistWatch.Tickets.Desk
import BlocklistWatch.Tickets.Jira.Time
import BlocklistWatch.Tickets.Retry
import BlocklistWatch.Tickets.Wording
import BlocklistWatch.Web.Http

/-!
# Jira as a ticket system

A client of the Jira interface: searching the open issue of an address, opening issues, commenting.
Every call goes through the policy for further attempts.

* `JiraClient.build?` refuses settings that no server can be reached with.
* `JiraClient.openIssueQuery` is the search for the open issues of an address.
* `JiraClient.desk` is the client as a ticket desk over a server.
-/

namespace BlocklistWatch

open Json (Value Decoder Shape)
open Web (HttpRequest HttpResponse HttpServer Url)

structure JiraClient where
  base : String
  user : String
  token : String
  project : String
  issueType : String
  outageIssueType : String
  closedStatuses : List String
  userAgent : String
  retry : RetryPolicy
deriving DecidableEq, Repr

namespace JiraClient

def standardUserAgent : String := "dnsbl-monitor/0.1.0"

/-- A client with the given settings, unless the server's address cannot be read, the project is
blank, or the client's name cannot be sent. -/
def build? (s : TicketSettings) (userAgent : String) (retry : RetryPolicy) :
    Except TicketError JiraClient :=
  let base := String.ofList (Text.dropTrailing (· == '/') s.server.toList)
  match Url.parse base with
  | .error e => .error (.configuration ("invalid server URL " ++ base ++ ": " ++ e.message))
  | .ok _ =>
    if (Text.trim s.project).isEmpty then
      .error (.configuration "project key must not be empty")
    else if userAgent.toList.all Web.isHeaderChar then
      .ok ⟨base, s.user, s.token, s.project, s.issueType, s.outageIssueType, s.closedStatuses,
        userAgent, retry⟩
    else .error (.configuration "failed to build HTTP client: builder error")

def description (c : JiraClient) : String :=
  "JiraClient \x7b base_url: " ++ Text.quoted c.base ++ ", project: " ++ Text.quoted c.project ++
    ", .. \x7d"

def inQuotes (s : String) : String :=
  "\"" ++ s ++ "\""

/-- The search for the open issues of an address: those of the project whose status is not a closed
one and whose summary names the address. -/
def openIssueQuery (c : JiraClient) (ip : Ipv4) : String :=
  "project = " ++ inQuotes c.project ++ " AND status NOT IN (" ++
    ",".intercalate (c.closedStatuses.map inQuotes) ++ ") AND summary ~ " ++
    inQuotes ("IP " ++ ip.text)

/-! ## Answers -/

def nameDecoder : Decoder String :=
  (Shape.pure id |>.seq (.required "name" .text)).decoder "RawStatus"

/-- What is known of an issue besides its key: summary, status and time of creation as written. -/
abbrev FoundFields := String × Option String × Option String

def fieldsDecoder : Decoder FoundFields :=
  (Shape.pure (fun summary status created => (summary, status, created))
    |>.seq (.withDefault "summary" .text "")
    |>.seq (.nullable "status" nameDecoder)
    |>.seq (.nullable "created" .text)).decoder "RawFields"

/-- The issue of a key and what is known of it; a time of creation that cannot be read is as good as
none. -/
def foundIssue (key : String) (fields : FoundFields) : Issue :=
  ⟨key, fields.1, fields.2.1.getD "", fields.2.2.bind Jira.time?⟩

def foundDecoder : Decoder Issue :=
  (Shape.pure foundIssue
    |>.seq (.required "key" .text)
    |>.seq (.required "fields" fieldsDecoder)).decoder "RawIssue"

def searchDecoder : Decoder (List Issue) :=
  (Shape.pure id
    |>.seq (.withDefault "issues" (.list foundDecoder) [])).decoder "SearchResponse"

def createdDecoder : Decoder String :=
  (Shape.pure id |>.seq (.required "key" .text)).decoder "CreatedIssue"

def member? (v : Value) (name : String) : Option Value :=
  match v with
  | .object members => (members.find? (·.1 == name)).map (·.2)
  | _ => none

def failureMessages (v : Value) : List String :=
  let general := match member? v "errorMessages" with
    | some (.array items) => items.filterMap fun
      | .string s => some s
      | _ => none
    | _ => []
  let byField := match member? v "errors" with
    | some (.object members) => members.filterMap fun
      | (name, .string s) => some (name ++ ": " ++ s)
      | _ => none
    | _ => []
  general ++ byField

/-- The text of a failure: its messages if the answer has any, otherwise the answer as it is. -/
def failureText (body : String) : String :=
  match Decoder.run Decoder.value body with
  | .error _ => body
  | .ok v =>
    match failureMessages v with
    | [] => body
    | messages => "; ".intercalate messages

def readAnswer {α : Type} (d : Decoder α) (r : HttpResponse) : Except TicketError α :=
  if r.isSuccess then
    match d.run r.body with
    | .ok a => .ok a
    | .error e => .error (.badBody e)
  else .error (.api r.status (failureText r.body))

/-! ## Calls -/

variable {σ : Type}

/-- One attempt at a call: a path below the server's address, names and values for the query, and a
body if something is posted. -/
def attempt {α : Type} (c : JiraClient) (server : HttpServer σ) (d : Decoder α) (path : String)
    (params : List (String × String)) (body : Option Value) (s : σ) : Except TicketError α × σ :=
  match Url.parse (c.base ++ path) with
  | .error e => (.error (.configuration ("invalid URL for " ++ path ++ ": " ++ e.message)), s)
  | .ok url =>
    if ¬ url.isWeb then (.error (.transport "builder error"), s)
    else
      let url := if params.isEmpty then url else url.addQuery params
      let request : HttpRequest :=
        ⟨url.target, Web.basicAuthorization c.user c.token, c.userAgent, body.map (·.compact)⟩
      match server request s with
      | (none, s) => (.error (.transport "error sending request"), s)
      | (some response, s) => (readAnswer d response, s)

def call {α : Type} (c : JiraClient) (server : HttpServer σ) (d : Decoder α) (path : String)
    (params : List (String × String)) (body : Option Value) (s : σ) : Except TicketError α × σ :=
  let attempts := c.retry.run (c.attempt server d path params body) s
  (attempts.result, attempts.state)

def issueBody (c : JiraClient) (issueType summary description : String) (labels : List String) :
    Value :=
  let labels := if labels.isEmpty then [] else [("labels", Value.strings labels)]
  .object [("fields", .object ([
    ("description", .string description),
    ("issuetype", .object [("name", .string issueType)])] ++ labels ++ [
    ("project", .object [("key", .string c.project)]),
    ("summary", .string summary)]))]

def issuePath : String := "/rest/api/2/issue"

def desk (c : JiraClient) (server : HttpServer σ) : TicketDesk σ where
  find ip s :=
    let (answer, s) := c.call server searchDecoder "/rest/api/2/search"
      [("jql", c.openIssueQuery ip), ("maxResults", "10")] none s
    (answer.map Issue.mostRecent?, s)
  create ip zones description s :=
    c.call server createdDecoder issuePath []
      (some (c.issueBody c.issueType (listingSummary ip zones) description [])) s
  comment key body s :=
    let (answer, s) := c.call server Decoder.value (issuePath ++ "/" ++ key ++ "/comment") []
      (some (.object [("body", .string body)])) s
    (answer.map fun _ => (), s)
  outage fraction zones s :=
    c.call server createdDecoder issuePath []
      (some (c.issueBody c.outageIssueType (outageSummary fraction)
        (outageDescription fraction zones) [outageLabel])) s

end JiraClient

end BlocklistWatch
