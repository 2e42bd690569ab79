import BlocklistWatch.Config.Settings
import BlocklistWatch.Health.Summary
import BlocklistWatch.Monitor.Stats
import BlocklistWatch.Probe.FanOut
import BlocklistWatch.Probe.Reference
import BlocklistWatch.Tickets.Wording

/-!
# A run

One pass over all addresses: each is checked at all zones, what changed is written and then told to
the ticket system, and in the end stock is taken of the zones.

* `Collaborators` is everything outside that a run works with; `Collaborators.visits` are the
  addresses that a run comes to, each with what the look-up replies then.
* `RunState.checkOne` deals with one address, `RunState.checkAll` with one after another.
* `Collaborators.run` is the whole run. What it did is in the effects of its state.
-/

namespace BlocklistWatch

/-! ## The world outside -/

/-- A store by its answers; `σ` is its state, `ε` its failures. -/
structure StoreDesk (σ ε : Type) where
  fetch : σ → Except ε (List IpState) × σ
  /-- Writes a transition; false if it had been written before. -/
  apply : IpState → Transition → PriorityPolicy → σ → Except ε Bool × σ

/-- Where the reports go; `ρ` is its state, `φ` its failures. -/
structure ReportDesk (ρ φ : Type) where
  /-- Hands a summary over; the answer names the files that were written. -/
  publish : HealthSummary → ρ → Except φ (List String) × ρ

structure Collaborators (σ ε τ ρ φ : Type) where
  store : StoreDesk σ ε
  tickets : TicketDesk τ
  reports : ReportDesk ρ φ
  /-- What the look-up replies while the address at a position is checked, to the probe of a zone.
  One name may be asked for more than once in a run and need not be replied to alike. -/
  lookup : Nat → String → Lookup
  cloudflare : Lookup
  google : Lookup

/-- An address that a run comes to: its recorded state, and what the look-up replies then to the
probe of a zone. -/
structure Visit where
  state : IpState
  lookup : String → Lookup

def Collaborators.visits {σ ε τ ρ φ : Type} (c : Collaborators σ ε τ ρ φ) (states : List IpState) :
    List Visit :=
  states.zipIdx.map fun (state, position) => ⟨state, c.lookup position⟩

inductive RunError (ε φ : Type) where
  | store (e : ε)
  | check (e : CheckError)
  | tracker (e : TrackerError)
  | report (e : φ)
deriving Repr

inductive Effect where
  /-- A transition of a state was handed to the store; whether it could write it. -/
  | apply (state : IpState) (t : Transition) (accepted : Bool)
  | ticket (call : TicketCall)
  | checked (entry : CheckEntry)
deriving DecidableEq

structure RunState (σ τ : Type) where
  store : σ
  desk : τ
  tracker : HealthTracker
  stats : RunStats
  /-- What was done so far, the last thing first. -/
  effects : List Effect
  /-- The time spent on waiting so far, in milliseconds. -/
  elapsed : Nat

namespace RunState

variable {σ ε τ ρ φ : Type}

def did (s : RunState σ τ) (e : Effect) : RunState σ τ :=
  { s with effects := e :: s.effects }

def trace (s : RunState σ τ) : List Effect :=
  s.effects.reverse

/-! ## Tickets -/

def findIssue (tickets : TicketDesk τ) (ip : Ipv4) (s : RunState σ τ) :
    Except TicketError (Option Issue) × RunState σ τ :=
  let (answer, desk) := tickets.find ip s.desk
  (answer, { s with desk := desk }.did (.ticket (.find ip)))

def openIssue (tickets : TicketDesk τ) (t : Transition) (s : RunState σ τ) :
    TicketAction × RunState σ τ :=
  let description := listingDescription t
  let (answer, desk) := tickets.create t.ip t.listedZones description s.desk
  let s := { s with desk := desk }.did (.ticket (.create t.ip t.listedZones description))
  match answer with
  | .ok key => (.created key, s)
  | .error _ => (.failed, s)

def commentOn (tickets : TicketDesk τ) (key body : String) (s : RunState σ τ) :
    TicketAction × RunState σ τ :=
  let (answer, desk) := tickets.comment key body s.desk
  let s := { s with desk := desk }.did (.ticket (.comment key body))
  match answer with
  | .ok () => (.updated key, s)
  | .error _ => (.failed, s)

/-- Tells the ticket system about a transition: a first listing opens an issue unless one is open,
any other transition comments on the open issue if there is one. -/
def tell (tickets : TicketDesk τ) (t : Transition) (s : RunState σ τ) :
    TicketAction × RunState σ τ :=
  match findIssue tickets t.ip s with
  | (.error _, s) => (.failed, s)
  | (.ok found, s) =>
    match t.kind, found with
    | .firstListing, none => openIssue tickets t s
    | .recovery, some issue => commentOn tickets issue.key (recoveryComment t) s
    | .zoneChange, some issue => commentOn tickets issue.key (zoneChangeComment t) s
    | _, _ => (.none, s)

def tellAndCount (tickets : TicketDesk τ) (t : Transition) (s : RunState σ τ) :
    TicketAction × RunState σ τ :=
  let (action, s) := tell tickets t s
  (action, { s with stats := action.count s.stats })

/-! ## One address -/

/-- Writes a transition and, once it is written, tells the ticket system. The answer is whether the
store wrote anything and what was done about the ticket. -/
def carryOut (store : StoreDesk σ ε) (tickets : TicketDesk τ) (settings : Settings)
    (state : IpState) (t : Transition) (s : RunState σ τ) :
    Bool × TicketAction × RunState σ τ :=
  if settings.dryRun then (false, .dryRun, s)
  else
    match store.apply state t settings.priority s.store with
    | (.error _, stored) =>
      let s := { s with
        store := stored
        stats := { s.stats with storeFailures := s.stats.storeFailures + 1 } }
      (false, .none, s.did (.apply state t false))
    | (.ok written, stored) =>
      let s := { s with store := stored }.did (.apply state t true)
      let (action, s) := tellAndCount tickets t s
      (written, action, s)

/-- The zones without a definite answer, in the order of the findings. -/
def unknownZones (findings : List Finding) : List String :=
  (findings.filter (·.verdict.status = .unknown)).map (·.zone)

def decideOn (store : StoreDesk σ ε) (tickets : TicketDesk τ) (settings : Settings)
    (state : IpState) (findings : List Finding) (s : RunState σ τ) : RunState σ τ :=
  let unknown := Text.quotedList (unknownZones findings)
  match state.decide (findings.map (·.observation)) with
  | none =>
    let s := { s with stats := { s.stats with unchanged := s.stats.unchanged + 1 } }
    s.did (.checked ⟨state.address, state.listedZones.stored, unknown, state.listing, none, false,
      .none⟩)
  | some t =>
    let s := { s with stats := s.stats.countKind t.kind }
    let (written, action, s) := carryOut store tickets settings state t s
    s.did (.checked ⟨state.address, Text.quotedList t.listedZones, unknown, t.next, some t.kind,
      written, action⟩)

def prober (settings : Settings) (lookup : String → Lookup) : Prober :=
  ⟨lookup, settings.probing.timeoutMs⟩

def checkOne (c : Collaborators σ ε τ ρ φ) (settings : Settings) (v : Visit)
    (s : RunState σ τ) : Except CheckError Unit × RunState σ τ :=
  let s := { s with
    tracker := s.tracker.start
    stats := { s.stats with total := s.stats.total + 1 } }
  let result := checkAddress (prober settings v.lookup) (some s.tracker) v.state.address
    settings.probing.zones settings.probing.concurrency
  let s := { s with
    tracker := result.tracker.getD s.tracker
    elapsed := s.elapsed + result.elapsed }
  match result.findings with
  | .error e => (.error e, s)
  | .ok findings => (.ok (), decideOn c.store c.tickets settings v.state findings s)

/-- Checks one address after another; the first that cannot be checked ends it. -/
def checkAll (c : Collaborators σ ε τ ρ φ) (settings : Settings) :
    List Visit → RunState σ τ → Except CheckError Unit × RunState σ τ
  | [], s => (.ok (), s)
  | v :: vs, s =>
    match checkOne c settings v s with
    | (.error e, s) => (.error e, s)
    | (.ok (), s) => checkAll c settings vs s

/-! ## The end of a run -/

def reportOutage (tickets : TicketDesk τ) (settings : Settings) (summary : HealthSummary)
    (s : RunState σ τ) : RunState σ τ :=
  if settings.dryRun then s
  else
    let fraction := summary.brokenFraction
    let zones := summary.brokenZoneNames
    let (answer, desk) := tickets.outage fraction zones s.desk
    let s := { s with desk := desk }.did (.ticket (.outage fraction zones))
    let action := match answer with
      | .ok key => TicketAction.created key
      | .error _ => .failed
    { s with stats := action.count s.stats }

end RunState

structure RunOutcome where
  stats : RunStats
  summary : HealthSummary
  files : List String
deriving DecidableEq

/-- What is left of a run: its outcome or why it was given up, the state it came to, if it began, and
the state of the reports. -/
structure RunResult (σ ε τ ρ φ : Type) where
  outcome : Except (RunError ε φ) RunOutcome
  store : σ
  desk : τ
  reports : ρ
  trace : List Effect
  elapsed : Nat

namespace Collaborators

variable {σ ε τ ρ φ : Type}

def askOutside (c : Collaborators σ ε τ ρ φ) (settings : Settings) : Connectivity × Nat :=
  if settings.probing.networkCheck then
    (checkConnectivity c.cloudflare c.google settings.probing.timeoutMs,
      connectivityDuration c.cloudflare c.google settings.probing.timeoutMs)
  else (.skipped, 0)

/-- Takes stock after all addresses, reports an outage and hands the reports over. -/
def finish (c : Collaborators σ ε τ ρ φ) (settings : Settings) (moment : Moment) (durationMs : Nat)
    (s : RunState σ τ) (reports : ρ) : RunResult σ ε τ ρ φ :=
  let (connectivity, asked) := c.askOutside settings
  let summary := s.tracker.summarize (some connectivity) moment durationMs
  let s := { s with elapsed := s.elapsed + asked }
  let s := if summary.issueDetected then s.reportOutage c.tickets settings summary else s
  let (published, reports) := c.reports.publish summary reports
  let outcome := match published with
    | .ok files => .ok ⟨s.stats, summary, files⟩
    | .error e => .error (.report e)
  ⟨outcome, s.store, s.desk, reports, s.trace, s.elapsed⟩

/-- Runs once over all addresses. Stock is taken at the given moment; `durationMs` is the duration
that the summary shows. -/
def run (c : Collaborators σ ε τ ρ φ) (settings : Settings) (moment : Moment) (durationMs : Nat)
    (store : σ) (desk : τ) (reports : ρ) : RunResult σ ε τ ρ φ :=
  match c.store.fetch store with
  | (.error e, store) => ⟨.error (.store e), store, desk, reports, [], 0⟩
  | (.ok states, store) =>
    match HealthTracker.ofZones settings.probing.zones with
    | .error e => ⟨.error (.tracker e), store, desk, reports, [], 0⟩
    | .ok tracker =>
      match RunState.checkAll c settings (c.visits states) ⟨store, desk, tracker, .zero, [], 0⟩ with
      | (.error e, s) => ⟨.error (.check e), s.store, s.desk, reports, s.trace, s.elapsed⟩
      | (.ok (), s) => c.finish settings moment durationMs s reports

end Collaborators

def runDescription (settings : Settings) : String :=
  "Monitor \x7b zones: " ++ Text.quotedList settings.probing.zones ++ ", dry_run: " ++
    (if settings.dryRun then "true" else "false") ++ ", .. \x7d"

end BlocklistWatch
