import BlocklistWatch.Coding.Basic
import BlocklistWatch.Transition

/-!
# JSON forms of states and transitions

What is recorded about an address, and what a run changes about it, as JSON records.

* `IpState.json` and `Transition.json` write a value, `IpState.decoder` and `Transition.decoder` read
  one.
* The backup priority, the listed zones and the last event of a state may be left out, and so may the
  unknown zones of a transition.
-/

namespace BlocklistWatch

open Json (Value Decoder Shape)

/-! ## States -/

def ListingState.decoder : Decoder ListingState :=
  .choice (namedChoices tag [clean, listed])

def ListingState.json (s : ListingState) : Value :=
  .string s.tag

def IpState.json (s : IpState) : Value :=
  .object [
    ("id", wordJson s.id),
    ("address", s.address.json),
    ("priority", byteJson s.priority),
    ("backup_priority", .optional byteJson s.backupPriority),
    ("listed_zones", s.listedZones.json),
    ("last_event", .optional .string s.lastEvent)]

def IpState.shape : Shape IpState :=
  Shape.pure IpState.mk
    |>.seq (.required "id" wordDecoder)
    |>.seq (.required "address" Ipv4.decoder)
    |>.seq (.required "priority" byteDecoder)
    |>.seq (.withDefault "backup_priority" (.nullable byteDecoder) none)
    |>.seq (.withDefault "listed_zones" ZoneSet.decoder .empty)
    |>.seq (.withDefault "last_event" (.nullable .text) none)

def IpState.decoder : Decoder IpState :=
  shape.decoder "IpState"

/-! ## Transitions -/

def ZoneDelta.json (d : ZoneDelta) : Value :=
  .object [("added", .strings d.added), ("removed", .strings d.removed)]

def ZoneDelta.shape : Shape ZoneDelta :=
  Shape.pure ZoneDelta.mk
    |>.seq (.required "added" stringsDecoder)
    |>.seq (.required "removed" stringsDecoder)

def ZoneDelta.decoder : Decoder ZoneDelta :=
  shape.decoder "ZoneDelta"

def TransitionKind.decoder : Decoder TransitionKind :=
  .choice (namedChoices tag [firstListing, recovery, zoneChange])

def Transition.json (t : Transition) : Value :=
  .object [
    ("ip", t.ip.json),
    ("previous_state", t.previous.json),
    ("new_state", t.next.json),
    ("listed_zones", .strings t.listedZones),
    ("unknown_zones", .strings t.unknownZones),
    ("zone_delta", t.delta.json),
    ("requires_update", .bool t.requiresUpdate)]

def Transition.shape : Shape Transition :=
  Shape.pure Transition.mk
    |>.seq (.required "ip" Ipv4.decoder)
    |>.seq (.required "previous_state" ListingState.decoder)
    |>.seq (.required "new_state" ListingState.decoder)
    |>.seq (.required "listed_zones" stringsDecoder)
    |>.seq (.withDefault "unknown_zones" stringsDecoder [])
    |>.seq (.required "zone_delta" ZoneDelta.decoder)
    |>.seq (.required "requires_update" .bool)

def Transition.decoder : Decoder Transition :=
  shape.decoder "StateTransition"

end BlocklistWatch
