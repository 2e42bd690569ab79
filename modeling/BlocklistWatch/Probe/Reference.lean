import BlocklistWatch.Health.Connectivity
import BlocklistWatch.Probe.Lookup

/-!
# Asking public resolvers

Two public resolvers are asked at the same time for a name that is always there. A resolver is
reachable if it gives an address of that name in time.

* `checkConnectivity` asks both.
-/

namespace BlocklistWatch

def referenceName : String := "google.com"

def Lookup.isReachable (lookup : Lookup) (timeout : Nat) : Bool :=
  match (lookup referenceName).await timeout with
  | .outcome (.addresses found) => !found.isEmpty
  | _ => false

def checkConnectivity (cloudflare google : Lookup) (timeout : Nat) : Connectivity :=
  .ofCheck (cloudflare.isReachable timeout) (google.isReachable timeout)

def connectivityDuration (cloudflare google : Lookup) (timeout : Nat) : Nat :=
  max ((cloudflare referenceName).wait timeout) ((google referenceName).wait timeout)

end BlocklistWatch
