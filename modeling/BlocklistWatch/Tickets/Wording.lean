import BlocklistWatch.Decimal.Shortest
import BlocklistWatch.Text.Sorted
import BlocklistWatch.Transition

/-!
# What tickets say

The texts of issues and comments about a listed address and about an outage.

* `listingSummary` and `listingDescription` open an issue about an address, `recoveryComment` and
  `zoneChangeComment` go on with it.
* `outageSummary` and `outageDescription` open an issue about an outage.
-/

namespace BlocklistWatch

def sortedZones (zones : List String) : List String :=
  zones.mergeSort fun a b => decide (a ≤ b)

def zoneLines (zones : List String) : String :=
  "\n".intercalate (zones.map ("- " ++ ·))

def listingSummary (ip : Ipv4) (zones : List String) : String :=
  "IP " ++ ip.text ++ " blacklisted by " ++ ",".intercalate (sortedZones zones)

def listingDescription (t : Transition) : String :=
  "IP " ++ t.ip.text ++ " has been listed on " ++ Text.decimal t.listedZones.length ++
    " DNSBL zone(s):\n" ++ zoneLines t.listedZones

def recoveryComment (t : Transition) : String :=
  "IP " ++ t.ip.text ++ " is now clean (no longer listed)"

def zonesLine (label : String) (zones : List String) : String :=
  if zones.isEmpty then "" else label ++ ", ".intercalate zones ++ "\n"

def zoneChangeComment (t : Transition) : String :=
  "Zone membership changed:\n" ++ zonesLine "Added: " t.delta.added ++
    zonesLine "Removed: " t.delta.removed ++ "Currently listed on: " ++
    ", ".intercalate t.listedZones

def percentText (fraction : Binary64) : String :=
  let hundred := (Binary64.ofNat? 100).getD .zero
  let (num, den) := ((fraction.mul? hundred).getD .zero).ratio
  Decimal.fixed 1 num den

def outageLabel : String := "MAJOR MALFUNCTION"

def outageSummary (fraction : Binary64) : String :=
  "DNS Infrastructure Failure Detected - " ++ percentText fraction ++ "% zones unreachable"

def outageDescription (fraction : Binary64) (zones : List String) : String :=
  outageLabel ++ ": " ++ percentText fraction ++
    "% of DNSBL zones returned UNKNOWN.\n\nFailed zones:\n" ++ zoneLines zones

end BlocklistWatch
