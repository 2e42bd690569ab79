import BlocklistWatch.Coding.Basic
import BlocklistWatch.Config.Settings

/-!
# JSON forms of settings

Settings as JSON records. Every field may be left out, and then holds what holds where nothing is
set.

* `Settings.json` writes the settings, `Settings.decoder` reads them.
-/

namespace BlocklistWatch

open Json (Value Decoder Shape)

def pathDecoder : Decoder String :=
  .textAs "path string"

def countDecoder (expected : String) : Decoder Nat :=
  .natural expected (UInt64.size - 1)

def ProbeSettings.json (s : ProbeSettings) : Value :=
  .object [
    ("zones", .strings s.zones),
    ("timeout_secs", .nat s.timeoutSecs),
    ("concurrency", .nat s.concurrency),
    ("network_check", .bool s.networkCheck)]

def ProbeSettings.decoder : Decoder ProbeSettings :=
  (Shape.pure ProbeSettings.mk
    |>.seq (.withDefault "zones" stringsDecoder standard.zones)
    |>.seq (.withDefault "timeout_secs" (countDecoder "u64") standard.timeoutSecs)
    |>.seq (.withDefault "concurrency" (countDecoder "usize") standard.concurrency)
    |>.seq (.withDefault "network_check" .bool standard.networkCheck)).decoder "DnsConfig"

def PriorityPolicy.json (p : PriorityPolicy) : Value :=
  .object [
    ("listed_priority", byteJson p.listed),
    ("clean_fallback_priority", byteJson p.fallback)]

def PriorityPolicy.decoder : Decoder PriorityPolicy :=
  (Shape.pure PriorityPolicy.mk
    |>.seq (.withDefault "listed_priority" byteDecoder standard.listed)
    |>.seq (.withDefault "clean_fallback_priority" byteDecoder standard.fallback)).decoder
      "PriorityPolicy"

def TicketSettings.json (t : TicketSettings) : Value :=
  .object [
    ("server", .string t.server),
    ("user", .string t.user),
    ("api_token", .string t.token),
    ("project", .string t.project),
    ("issue_type", .string t.issueType),
    ("dns_failure_issue_type", .string t.outageIssueType),
    ("excluded_statuses", .strings t.closedStatuses)]

def TicketSettings.decoder : Decoder TicketSettings :=
  (Shape.pure TicketSettings.mk
    |>.seq (.withDefault "server" .text standard.server)
    |>.seq (.withDefault "user" .text standard.user)
    |>.seq (.withDefault "api_token" .text standard.token)
    |>.seq (.withDefault "project" .text standard.project)
    |>.seq (.withDefault "issue_type" .text standard.issueType)
    |>.seq (.withDefault "dns_failure_issue_type" .text standard.outageIssueType)
    |>.seq (.withDefault "excluded_statuses" stringsDecoder standard.closedStatuses)).decoder
      "JiraConfig"

namespace Settings

def storeJson (path : String) : Value :=
  .object [("path", .string path)]

def storeDecoder : Decoder String :=
  (Shape.pure id |>.seq (.withDefault "path" pathDecoder standard.storePath)).decoder "StoreConfig"

def reportJson (dir : Option String) : Value :=
  .object [("output_dir", .optional .string dir)]

def reportDecoder : Decoder (Option String) :=
  (Shape.pure id
    |>.seq (.withDefault "output_dir" (.nullable pathDecoder) standard.reportDir)).decoder
      "ReportConfig"

def json (s : Settings) : Value :=
  .object [
    ("dry_run", .bool s.dryRun),
    ("dns", s.probing.json),
    ("priority", s.priority.json),
    ("store", storeJson s.storePath),
    ("jira", .optional (·.json) s.tickets),
    ("report", reportJson s.reportDir)]

def decoder : Decoder Settings :=
  (Shape.pure Settings.mk
    |>.seq (.withDefault "dry_run" .bool standard.dryRun)
    |>.seq (.withDefault "dns" ProbeSettings.decoder standard.probing)
    |>.seq (.withDefault "priority" PriorityPolicy.decoder standard.priority)
    |>.seq (.withDefault "store" storeDecoder standard.storePath)
    |>.seq (.withDefault "jira" (.nullable TicketSettings.decoder) standard.tickets)
    |>.seq (.withDefault "report" reportDecoder standard.reportDir)).decoder "MonitorConfig"

end Settings

end BlocklistWatch
