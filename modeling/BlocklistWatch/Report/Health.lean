import BlocklistWatch.Coding.Health
import BlocklistWatch.Yaml.Document

/-!
# Health reports

Two files tell what a run learnt: a JSON summary for dashboards, and a YAML list of the zones to
keep, under a header of three comment lines.

* `HealthSummary.report` is the JSON summary, `PrunedZones.report` the YAML list.
-/

namespace BlocklistWatch

open Json (Value)

/-! ## The summary -/

def ZoneRecord.reportEntry (r : ZoneRecord) : Value :=
  .object [
    ("zone", .string r.zone),
    ("status", .string r.status.tag),
    ("checks_performed", .nat r.performed),
    ("successful_checks", .nat r.successful),
    ("failed_checks", .nat r.failed),
    ("failure_rate", .double r.failureRate),
    ("failure_types", r.failures.json)]

namespace HealthSummary

def sortedRecords (s : HealthSummary) : List ZoneRecord :=
  s.records.mergeSort fun a b => decide (a.zone ≤ b.zone)

def reportValue (s : HealthSummary) : Value :=
  .object [
    ("execution_summary", .object [
      ("timestamp", .string s.moment.textSeconds),
      ("total_dnsbls", .nat s.totalZones),
      ("broken_dnsbls", .nat s.brokenZones),
      ("network_issue_detected", .bool s.issueDetected),
      ("total_ip_checks", .nat s.checked),
      ("execution_duration_ms", .nat s.durationMs)]),
    ("dnsbl_health", .array (s.sortedRecords.map (·.reportEntry))),
    ("network_connectivity", .optional (·.json) s.connectivity)]

def report (s : HealthSummary) : String :=
  s.reportValue.pretty

end HealthSummary

/-! ## The zones to keep -/

namespace PrunedZones

def header (p : PrunedZones) : String :=
  let removed := if p.removed.isEmpty then "None" else ", ".intercalate p.removed
  "# Suggested DNSBL Configuration (Broken endpoints removed)\n# Generated: " ++
    p.moment.textSeconds ++ "\n# Removed: " ++ removed ++ "\n"

def document (p : PrunedZones) : String :=
  Yaml.render (.object [("dnsbl_zones", .strings p.healthy)])

def report (p : PrunedZones) : String :=
  p.header ++ p.document

end PrunedZones

def HealthSummary.pruned (s : HealthSummary) : PrunedZones :=
  .ofRecords s.records s.moment

end BlocklistWatch
