import BlocklistWatch.Health.Record
import BlocklistWatch.Text.Sorted

/-!
# Tracking the health of all zones

A tracker holds one record for each configured zone and counts the addresses that a run has looked
at. Checks of zones that it does not know are refused.

* `HealthTracker.ofZones` starts a tracker, `HealthTracker.start` counts an address and
  `HealthTracker.note` a check.
* `HealthTracker.record?` looks a zone up.
-/

namespace BlocklistWatch

inductive TrackerError where
  | noZones
  | unknownZone (zone : String)
  | missingFailureKind (zone : String)
deriving DecidableEq, Repr

def TrackerError.message : TrackerError → String
  | .noZones => "zone list must contain at least one zone"
  | .unknownZone zone => "unknown DNSBL zone: " ++ zone
  | .missingFailureKind zone =>
    "failure kind is required when reporting a failed check for " ++ zone

/-- The records of the tracked zones, in increasing order of the zones, and the number of addresses
looked at. -/
structure HealthTracker where
  records : List ZoneRecord
  started : Nat
deriving DecidableEq, Repr, Inhabited

namespace HealthTracker

/-- A tracker for the distinct zones of a list. -/
def ofZones (zones : List String) : Except TrackerError HealthTracker :=
  if zones.isEmpty then .error .noZones
  else .ok ⟨(Text.sortNames zones).map ZoneRecord.fresh, 0⟩

def start (t : HealthTracker) : HealthTracker :=
  { t with started := t.started + 1 }

def zones (t : HealthTracker) : List String :=
  t.records.map (·.zone)

def record? (t : HealthTracker) (zone : String) : Option ZoneRecord :=
  t.records.find? (·.zone == zone)

def put (t : HealthTracker) (r : ZoneRecord) : HealthTracker :=
  { t with records := t.records.map fun old => if old.zone = r.zone then r else old }

def note (t : HealthTracker) (zone : String) (success : Bool) (failure : Option FailureKind) :
    Except TrackerError HealthTracker :=
  match t.record? zone with
  | none => .error (.unknownZone zone)
  | some r =>
    match r.note? success failure with
    | none => .error (.missingFailureKind r.zone)
    | some r => .ok (t.put r)

def noteVerdict (t : HealthTracker) (zone : String) (v : Verdict) :
    Except TrackerError HealthTracker :=
  t.note zone v.status.isDefinitive v.failure

def broken (t : HealthTracker) : List ZoneRecord :=
  t.records.filter (·.isBroken)

theorem zones_put {t : HealthTracker} (r : ZoneRecord) : (t.put r).zones = t.zones := by
  simp only [zones, put, List.map_map]
  apply List.map_congr_left
  intro old _
  simp only [Function.comp_apply]
  split
  · next h => exact h.symm
  · rfl

@[simp] theorem zones_start (t : HealthTracker) : t.start.zones = t.zones := rfl

theorem zones_note {t t' : HealthTracker} {zone : String} {success : Bool}
    {failure : Option FailureKind} (h : t.note zone success failure = .ok t') :
    t'.zones = t.zones := by
  unfold note at h
  split at h
  · simp at h
  · split at h
    · simp at h
    · simp only [Except.ok.injEq] at h
      rw [← h, zones_put]

end HealthTracker

end BlocklistWatch
