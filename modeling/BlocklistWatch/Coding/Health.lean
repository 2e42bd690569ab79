import BlocklistWatch.Coding.Finding
import BlocklistWatch.Health.Summary

/-!
# JSON forms of health data

Failure counts, zone statuses, the reachability of the outside and the zones to keep, as JSON.

* Failure counts are an object from the name of a kind to a number, in increasing order of the names.
* The reachability of a resolver is null where it is not known.
-/

namespace BlocklistWatch

open Json (Value Decoder Shape)

def failureCountsJson (entries : List (FailureKind × Nat)) : Value :=
  .object (entries.map fun (kind, n) => (kind.tag, .nat n))

/-- The counts that are not zero, by the name of their kind. -/
def FailureTally.json (t : FailureTally) : Value :=
  failureCountsJson t.entries

def ZoneRecord.json (r : ZoneRecord) : Value :=
  .object [
    ("zone", .string r.zone),
    ("checks_performed", .nat r.performed),
    ("successful_checks", .nat r.successful),
    ("failed_checks", .nat r.failed),
    ("failure_types", r.failures.json)]

/-- Decodes failure counts; of two for one kind the last counts. -/
def failureCountsDecoder : Decoder (List (FailureKind × Nat)) :=
  (Decoder.choiceMap FailureKind.choices (.natural "u64" (UInt64.size - 1))).map fun entries =>
    FailureKind.all.filterMap fun kind =>
      (entries.reverse.find? (·.1 = kind)).map fun entry => (kind, entry.2)

def ZoneStatus.decoder : Decoder ZoneStatus :=
  .choice (namedChoices tag [healthy, broken])

def Connectivity.json (c : Connectivity) : Value :=
  .object [
    ("check_enabled", .bool c.enabled),
    ("cloudflare_reachable", .optional .bool c.cloudflare),
    ("google_reachable", .optional .bool c.google)]

def Connectivity.shape : Shape Connectivity :=
  Shape.pure Connectivity.mk
    |>.seq (.required "check_enabled" .bool)
    |>.seq (.nullable "cloudflare_reachable" .bool)
    |>.seq (.nullable "google_reachable" .bool)

def Connectivity.decoder : Decoder Connectivity :=
  shape.decoder "NetworkConnectivityResult"

def PrunedZones.json (p : PrunedZones) : Value :=
  .object [
    ("healthy_zones", .strings p.healthy),
    ("removed_zones", .strings p.removed),
    ("generated_at", p.moment.json)]

def PrunedZones.shape : Shape PrunedZones :=
  Shape.pure PrunedZones.mk
    |>.seq (.required "healthy_zones" stringsDecoder)
    |>.seq (.required "removed_zones" stringsDecoder)
    |>.seq (.required "generated_at" Moment.decoder)

def PrunedZones.decoder : Decoder PrunedZones :=
  shape.decoder "PrunedConfiguration"

end BlocklistWatch
