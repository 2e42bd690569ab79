import BlocklistWatch.Probe.Lookup
import BlocklistWatch.Time.Duration
import BlocklistWatch.Zone.Name

/-!
# Probing one zone

One address is asked about at one zone. A zone whose name cannot be one is not asked; that is a
failure of its own.

* `Prober.probe` is how the probe of a zone ends, `Prober.duration` how long it takes.
* `ProbeEnd.found` is what the end means, `Prober.finding` what probing a zone alone finds. It
  bears the address and the zone just as they were given, by `Prober.ip_finding` and
  `Prober.zone_finding`.
-/

namespace BlocklistWatch

inductive ProbeEnd where
  | finding (f : Finding)
  | death (reason : String)
deriving DecidableEq, Repr, Inhabited

/-- What is found at a zone whose look-up died: the question is open. The number of the task, which
the reason is told with, is left out. -/
def Finding.ofDeath (ip : Ipv4) (zone reason : String) : Finding :=
  .unknown ip zone .unknownError ("task panicked with message " ++ Text.quoted reason)

/-- What the end of the probe of a zone means. -/
def ProbeEnd.found (ip : Ipv4) (zone : String) : ProbeEnd → Finding
  | finding f => f
  | death reason => .ofDeath ip zone reason

def probeQuery (ip : Ipv4) (zone : String) : Except NameError String :=
  (ZoneName.accept zone).map (QueryName.ofAddress ip)

structure Prober where
  /-- What the look-up replies to the probe of a zone. -/
  lookup : String → Lookup
  timeout : Nat

namespace Prober

def probe (p : Prober) (ip : Ipv4) (zone : String) : ProbeEnd :=
  match probeQuery ip zone with
  | .error e => .finding (.unknown ip zone .unknownError e.message)
  | .ok query =>
    match (p.lookup zone query).await p.timeout with
    | .outcome o => .finding (.ofOutcome ip zone o)
    | .death reason => .death reason

def duration (p : Prober) (ip : Ipv4) (zone : String) : Nat :=
  match probeQuery ip zone with
  | .error _ => 0
  | .ok query => (p.lookup zone query).wait p.timeout

/-- What probing a zone alone finds. -/
def finding (p : Prober) (ip : Ipv4) (zone : String) : Finding :=
  (p.probe ip zone).found ip zone

theorem ip_and_zone_of_probe {p : Prober} {ip : Ipv4} {zone : String} {f : Finding}
    (h : p.probe ip zone = .finding f) : f.ip = ip ∧ f.zone = zone := by
  unfold probe at h
  split at h
  · cases h
    exact ⟨rfl, rfl⟩
  · split at h
    · cases h
      exact ⟨rfl, rfl⟩
    · cases h

theorem ip_and_zone_finding (p : Prober) (ip : Ipv4) (zone : String) :
    (p.finding ip zone).ip = ip ∧ (p.finding ip zone).zone = zone := by
  unfold finding
  cases h : p.probe ip zone with
  | finding f => exact ip_and_zone_of_probe h
  | death reason => exact ⟨rfl, rfl⟩

@[simp] theorem ip_finding (p : Prober) (ip : Ipv4) (zone : String) : (p.finding ip zone).ip = ip :=
  (p.ip_and_zone_finding ip zone).1

@[simp] theorem zone_finding (p : Prober) (ip : Ipv4) (zone : String) :
    (p.finding ip zone).zone = zone :=
  (p.ip_and_zone_finding ip zone).2

theorem duration_le (p : Prober) (ip : Ipv4) (zone : String) : p.duration ip zone ≤ p.timeout := by
  unfold duration
  split
  · exact Nat.zero_le _
  · exact Reply.wait_le _ _

def description (p : Prober) (tracked : Bool) : String :=
  "ZoneProber \x7b timeout: " ++ Duration.text p.timeout ++ ", tracked: " ++
    (if tracked then "true" else "false") ++ ", .. \x7d"

end Prober

end BlocklistWatch
