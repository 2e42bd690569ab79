import BlocklistWatch.Config.Settings
import BlocklistWatch.Toml.Document
import BlocklistWatch.Toml.Sheet

/-!
# Settings in a file

Settings as TOML documents. Every entry may be left out, and then holds what holds where nothing is
set; entries of other names are passed over.

* `Settings.ofDocument?` reads the settings of a document.
* `Settings.document?` writes them.
-/

namespace BlocklistWatch

open Toml (Value)

/-! ## Reading -/

abbrev Given := List (String × Value)

namespace Given

/-- The fields of a record: by name from a table, by place from an array; a point in time counts as
a table without any of them. -/
def ofValue? (names : List String) : Value → Option Given
  | .table entries => some (names.filterMap fun n => (Toml.entry? entries n).map fun v => (n, v))
  | .array items => some (names.zip items)
  | .moment => some []
  | _ => none

/-- A field that may be left out. -/
def field {α : Type} (g : Given) (name : String) (read : Value → Option α) (fallback : α) :
    Option α :=
  match Toml.entry? g name with
  | some v => read v
  | none => some fallback

end Given

def Toml.Value.bool? : Value → Option Bool
  | .bool b => some b
  | _ => none

def Toml.Value.natural? (max : Nat) : Value → Option Nat
  | .integer n => if 0 ≤ n ∧ n ≤ max then some n.toNat else none
  | _ => none

def Toml.Value.text? : Value → Option String
  | .string s => some s
  | _ => none

def Toml.Value.texts? : Value → Option (List String)
  | .array items => items.mapM (·.text?)
  | _ => none

def ProbeSettings.ofValue? (v : Value) : Option ProbeSettings := do
  let g ← Given.ofValue? ["zones", "timeout_secs", "concurrency", "network_check"] v
  return {
    zones := ← g.field "zones" (·.texts?) standard.zones
    timeoutSecs := ← g.field "timeout_secs" (·.natural? (UInt64.size - 1)) standard.timeoutSecs
    concurrency := ← g.field "concurrency" (·.natural? (UInt64.size - 1)) standard.concurrency
    networkCheck := ← g.field "network_check" (·.bool?) standard.networkCheck }

def PriorityPolicy.ofValue? (v : Value) : Option PriorityPolicy := do
  let g ← Given.ofValue? ["listed_priority", "clean_fallback_priority"] v
  let byte (v : Value) : Option UInt8 := (v.natural? (UInt8.size - 1)).map UInt8.ofNat
  return {
    listed := ← g.field "listed_priority" byte standard.listed
    fallback := ← g.field "clean_fallback_priority" byte standard.fallback }

def TicketSettings.ofValue? (v : Value) : Option TicketSettings := do
  let g ← Given.ofValue? ["server", "user", "api_token", "project", "issue_type",
    "dns_failure_issue_type", "excluded_statuses"] v
  return {
    server := ← g.field "server" (·.text?) standard.server
    user := ← g.field "user" (·.text?) standard.user
    token := ← g.field "api_token" (·.text?) standard.token
    project := ← g.field "project" (·.text?) standard.project
    issueType := ← g.field "issue_type" (·.text?) standard.issueType
    outageIssueType := ← g.field "dns_failure_issue_type" (·.text?) standard.outageIssueType
    closedStatuses := ← g.field "excluded_statuses" (·.texts?) standard.closedStatuses }

namespace Settings

def storePathOf? (v : Value) : Option String := do
  (← Given.ofValue? ["path"] v).field "path" (·.text?) standard.storePath

def reportDirOf? (v : Value) : Option (Option String) := do
  (← Given.ofValue? ["output_dir"] v).field "output_dir" (fun v => v.text?.map some)
    standard.reportDir

def ofTable? (entries : List (String × Value)) : Option Settings := do
  let g : Given := entries
  return {
    dryRun := ← g.field "dry_run" (·.bool?) standard.dryRun
    probing := ← g.field "dns" ProbeSettings.ofValue? standard.probing
    priority := ← g.field "priority" PriorityPolicy.ofValue? standard.priority
    storePath := ← g.field "store" storePathOf? standard.storePath
    tickets := ← g.field "jira" (fun v => (TicketSettings.ofValue? v).map some) standard.tickets
    reportDir := ← g.field "report" reportDirOf? standard.reportDir }

/-- The settings of a document; none if it is no document or an entry is of another type. -/
def ofDocument? (s : String) : Option Settings := do
  ofTable? (← Toml.parse? s)

/-! ## Writing -/

/-- The settings as a sheet: no entries for what is not set. -/
def sheet (s : Settings) : Toml.Sheet where
  items := [("dry_run", .bool s.dryRun)]
  tables := [
    ("dns", [
      ("zones", .strings s.probing.zones),
      ("timeout_secs", .natural s.probing.timeoutSecs),
      ("concurrency", .natural s.probing.concurrency),
      ("network_check", .bool s.probing.networkCheck)]),
    ("priority", [
      ("listed_priority", .natural s.priority.listed.toNat),
      ("clean_fallback_priority", .natural s.priority.fallback.toNat)]),
    ("store", [("path", .string s.storePath)])] ++
    (s.tickets.map fun t => ("jira", [
      ("server", .string t.server),
      ("user", .string t.user),
      ("api_token", .string t.token),
      ("project", .string t.project),
      ("issue_type", .string t.issueType),
      ("dns_failure_issue_type", .string t.outageIssueType),
      ("excluded_statuses", .strings t.closedStatuses)])).toList ++
    [("report", (s.reportDir.map fun dir => ("output_dir", Toml.Item.string dir)).toList)]

/-- Numbers of a document have 63 bits. -/
def maxDocumentNumber : Nat := Nat.pow 2 63 - 1

/-- The settings as a document; none if a number is too large for one. -/
def document? (s : Settings) : Option String :=
  if s.probing.timeoutSecs ≤ maxDocumentNumber ∧ s.probing.concurrency ≤ maxDocumentNumber then
    some s.sheet.render
  else none

end Settings

end BlocklistWatch
