import BlocklistWatch.Health.Tracker
import BlocklistWatch.Probe.Prober
import BlocklistWatch.Probe.Schedule

/-!
# Checking one address at all zones

The zones are probed side by side, so many at once as the limit allows. Every probe counts itself in
the tracker when it ends; the results are taken one after another in the order of the zones, and
whoever takes the result of a dead probe counts it. The first result that the tracker refused ends
the check.

* `Check.finish` says what the end of a probe changes, `Check.take` what the taking of a result
  does.
* `Check.run` lets the probes end in a given order, each result being taken as soon as possible.
* `checkAddress` is the check by the clock, `checkQueries` the names that it asks for.
-/

namespace BlocklistWatch

inductive CheckError where
  | noZones
  | refused (e : TrackerError)
deriving DecidableEq, Repr

def CheckError.message : CheckError → String
  | .noZones => "zone list must contain at least one zone"
  | .refused e => e.message

/-- The tracker, if there is one, after a finding was counted under the zone that it bears. -/
def noteIn (tracker : Option HealthTracker) (f : Finding) :
    Except TrackerError (Option HealthTracker) :=
  match tracker with
  | none => .ok none
  | some t => (t.noteVerdict f.zone f.verdict).map some

structure Check where
  tracker : Option HealthTracker
  /-- The zones whose probe has ended, with what it left behind. -/
  ended : List (String × Except TrackerError ProbeEnd)
  /-- The zones whose result has not been taken, in increasing order. -/
  awaited : List String
  /-- The results that were taken, the last one first. -/
  taken : List Finding
  refusal : Option TrackerError
deriving Inhabited

namespace Check

def start (tracker : Option HealthTracker) (zones : List String) : Check :=
  ⟨tracker, [], zones, [], none⟩

/-- What the ended probe of a zone left behind, if it has ended. -/
def ended? (c : Check) (zone : String) : Option (Except TrackerError ProbeEnd) :=
  (c.ended.find? (·.1 == zone)).map (·.2)

/-- The check after the probe of a zone has ended; it ends only once. -/
def finish (c : Check) (probe : String → ProbeEnd) (zone : String) : Check :=
  if (c.ended? zone).isSome then c
  else
    match probe zone with
    | .death reason => { c with ended := (zone, .ok (.death reason)) :: c.ended }
    | .finding f =>
      match noteIn c.tracker f with
      | .ok tracker =>
        { c with tracker := tracker, ended := (zone, .ok (.finding f)) :: c.ended }
      | .error e => { c with ended := (zone, .error e) :: c.ended }

/-- The check after the next result was taken, if there is one to take. -/
def take (c : Check) (ip : Ipv4) : Check :=
  match c.refusal, c.awaited with
  | none, zone :: rest =>
    match c.ended? zone with
    | none => c
    | some (.error e) => { c with refusal := some e }
    | some (.ok (.finding f)) => { c with awaited := rest, taken := f :: c.taken }
    | some (.ok (.death reason)) =>
      let f := Finding.ofDeath ip zone reason
      match noteIn c.tracker f with
      | .ok tracker => { c with tracker := tracker, awaited := rest, taken := f :: c.taken }
      | .error e => { c with refusal := some e }
  | _, _ => c

def takeReady (c : Check) (ip : Ipv4) : Check :=
  c.awaited.foldl (fun c _ => c.take ip) c

/-- The results that were taken, sorted by the zones that they bear. -/
def results (c : Check) : List Finding :=
  c.taken.reverse.mergeSort fun a b => decide (a.zone ≤ b.zone)

/-- The check after the probes have ended in the given order, each result being taken as soon as
possible; once a result was refused, the other probes are called off. -/
def run (c : Check) (p : Prober) (ip : Ipv4) (order : List String) : Check :=
  order.foldl
    (fun c zone => if c.refusal.isSome then c else (c.finish (p.probe ip) zone).takeReady ip) c

end Check

/-! ## By the clock -/

/-- The zone that is probed and the time from the beginning of its probe to its end. -/
structure ProbeSpan where
  zone : String
  span : Span
deriving DecidableEq, Repr, Inhabited

namespace Prober

/-- When the probes of some zones begin and end, with at most `limit` of them at once. -/
def spans (p : Prober) (ip : Ipv4) (limit : Nat) (zones : List String) : List ProbeSpan :=
  List.zipWith ProbeSpan.mk zones (schedule limit (zones.map (p.duration ip)))

end Prober

def completionOrder (spans : List ProbeSpan) : List String :=
  (spans.mergeSort fun a b => decide (a.span.finish ≤ b.span.finish)).map (·.zone)

def lastFinish (spans : List ProbeSpan) : Nat :=
  (spans.map (·.span.finish)).foldl max 0

structure CheckResult where
  findings : Except CheckError (List Finding)
  tracker : Option HealthTracker
  elapsed : Nat
deriving Inhabited

/-- Checks an address at the distinct zones of a list, with at most `limit` probes at once. -/
def checkAddress (p : Prober) (tracker : Option HealthTracker) (ip : Ipv4) (zones : List String)
    (limit : Nat) : CheckResult :=
  let distinct := Text.sortNames zones
  if distinct.isEmpty then ⟨.error .noZones, tracker, 0⟩
  else
    let spans := p.spans ip limit distinct
    let done := (Check.start tracker distinct).run p ip (completionOrder spans)
    match done.refusal with
    | none => ⟨.ok done.results, done.tracker, lastFinish spans⟩
    | some e =>
      let due := spans.filter fun s => ¬ done.awaited.tail.contains s.zone
      ⟨.error (.refused e), done.tracker, lastFinish due⟩

/-- The names that a check asks for. -/
def checkQueries (ip : Ipv4) (zones : List String) : List String :=
  (Text.sortNames zones).filterMap fun zone => (probeQuery ip zone).toOption

end BlocklistWatch
