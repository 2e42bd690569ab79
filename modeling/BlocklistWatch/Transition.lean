import BlocklistWatch.Probe.Verdict
import BlocklistWatch.Zone.Set

/-!
# Deciding what a run changes

What is recorded about an address and what the lists say in this run give either nothing to do or a
transition. Only lists that say yes count: one that does not answer counts as one that says no.

* `IpState.decide` is the decision.
* `Transition.kind` says what the decision calls for: throttling the address, restoring it, or
  recording other lists.
-/

namespace BlocklistWatch

inductive ListingState where
  | clean
  | listed
deriving DecidableEq, Repr, Inhabited

namespace ListingState

def tag : ListingState → String
  | clean => "CLEAN"
  | listed => "LISTED"

def ofZones (zones : ZoneSet) : ListingState :=
  if zones.isEmpty then clean else listed

end ListingState

structure IpState where
  id : UInt64
  address : Ipv4
  priority : UInt8
  /-- The priority to return to, kept while the address is listed. -/
  backupPriority : Option UInt8
  listedZones : ZoneSet
  lastEvent : Option String
deriving DecidableEq

def IpState.listing (s : IpState) : ListingState :=
  .ofZones s.listedZones

/-- The zones that were added and those that were removed, in increasing order. -/
structure ZoneDelta where
  added : List String
  removed : List String
deriving DecidableEq, Repr, Inhabited

namespace ZoneDelta

def between (current observed : ZoneSet) : ZoneDelta :=
  ⟨observed.difference current, current.difference observed⟩

def isEmpty (d : ZoneDelta) : Bool :=
  d.added.isEmpty && d.removed.isEmpty

end ZoneDelta

inductive TransitionKind where
  /-- Keep the priority and throttle the address. -/
  | firstListing
  /-- Restore the priority. -/
  | recovery
  /-- Record the other lists. -/
  | zoneChange
deriving DecidableEq, Repr, Inhabited

def TransitionKind.tag : TransitionKind → String
  | firstListing => "first_listing"
  | recovery => "recovery"
  | zoneChange => "zone_change"

structure Transition where
  ip : Ipv4
  previous : ListingState
  next : ListingState
  listedZones : List String
  unknownZones : List String
  delta : ZoneDelta
  requiresUpdate : Bool
deriving DecidableEq, Repr

def Transition.kind (t : Transition) : TransitionKind :=
  match t.previous, t.next with
  | .clean, _ => .firstListing
  | .listed, .clean => .recovery
  | .listed, .listed => .zoneChange

structure Observation where
  zone : String
  status : ProbeStatus
deriving DecidableEq, Repr, Inhabited

def Finding.observation (f : Finding) : Observation :=
  ⟨f.zone, f.verdict.status⟩

namespace Observation

def zonesWith (status : ProbeStatus) (seen : List Observation) : ZoneSet :=
  ZoneSet.ofList ((seen.filter (·.status = status)).map (·.zone))

@[simp] theorem mem_zonesWith {status : ProbeStatus} {seen : List Observation} {z : String} :
    z ∈ zonesWith status seen ↔ ⟨z, status⟩ ∈ seen := by
  simp only [zonesWith, ZoneSet.mem_ofList, List.mem_map, List.mem_filter, decide_eq_true_eq]
  constructor
  · rintro ⟨⟨z', s⟩, ⟨hm, rfl⟩, rfl⟩
    exact hm
  · exact fun hm => ⟨⟨z, status⟩, ⟨hm, rfl⟩, rfl⟩

end Observation

/-- What a run changes about an address: nothing if the lists that say yes are the recorded ones. -/
def IpState.decide (prior : IpState) (seen : List Observation) : Option Transition :=
  let listed := Observation.zonesWith .listed seen
  if prior.listing = .ofZones listed ∧ prior.listedZones = listed then none
  else
    some {
      ip := prior.address
      previous := prior.listing
      next := .ofZones listed
      listedZones := listed.toList
      unknownZones := (Observation.zonesWith .unknown seen).toList
      delta := .between prior.listedZones listed
      requiresUpdate := true }

end BlocklistWatch
