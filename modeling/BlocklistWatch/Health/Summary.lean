import BlocklistWatch.Decimal.Binary64
import BlocklistWatch.Health.Connectivity
import BlocklistWatch.Health.Tracker
import BlocklistWatch.Time.Moment

/-!
# The summary of a run

What a run learnt about the zones, and whether their failures look like a fault on this side: at
least half of the zones are broken and no public resolver answered.

* `HealthTracker.summarize` takes stock of a tracker.
* `PrunedZones.ofRecords` parts the zones into those to keep and those to drop.
-/

namespace BlocklistWatch

structure HealthSummary where
  moment : Moment
  totalZones : Nat
  brokenZones : Nat
  /-- Whether the failures look like a fault on this side. -/
  issueDetected : Bool
  checked : Nat
  durationMs : Nat
  records : List ZoneRecord
  connectivity : Option Connectivity
deriving DecidableEq, Repr

/-- The share of broken zones from which on a fault on this side is suspected. -/
def issueThreshold : Binary64 := .half

/-- Whether so large a share of some zones is broken, as far as a double-precision number tells. -/
def isWidespread (broken total : Nat) : Bool :=
  issueThreshold.le (.quotient broken total)

def HealthTracker.summarize (t : HealthTracker) (connectivity : Option Connectivity)
    (moment : Moment) (durationMs : Nat) : HealthSummary where
  moment := moment
  totalZones := t.records.length
  brokenZones := t.broken.length
  issueDetected :=
    isWidespread t.broken.length t.records.length && connectivity.any (·.allUnreachable)
  checked := t.started
  durationMs := durationMs
  records := t.records
  connectivity := connectivity

def ZoneRecord.failureRate (r : ZoneRecord) : Binary64 :=
  .quotient r.failed r.performed

namespace HealthSummary

def brokenFraction (s : HealthSummary) : Binary64 :=
  .quotient s.brokenZones s.totalZones

/-- The zones whose every check failed, in the order of the records. -/
def brokenZoneNames (s : HealthSummary) : List String :=
  (s.records.filter (·.isBroken)).map (·.zone)

end HealthSummary

structure PrunedZones where
  healthy : List String
  removed : List String
  moment : Moment
deriving DecidableEq, Repr, Inhabited

/-- Parts the zones of some records: those whose every check failed are dropped. Both lists are in
increasing order. -/
def PrunedZones.ofRecords (records : List ZoneRecord) (moment : Moment) : PrunedZones where
  healthy := Text.sortNames ((records.filter (!·.isBroken)).map (·.zone))
  removed := Text.sortNames ((records.filter (·.isBroken)).map (·.zone))
  moment := moment

end BlocklistWatch
