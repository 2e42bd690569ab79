import BlocklistWatch.Coding.Basic
import BlocklistWatch.CommandLine.Arguments
import BlocklistWatch.Monitor.Files

/-!
# Log entries

What a run tells about itself while it goes on, by what it did.

* `LogEntry` is an entry, `runEntries` are those of a run.
* `logThreshold` is the level from which on entries are written.
-/

namespace BlocklistWatch

inductive LogLevel where
  | debug
  | info
  | warn
  | error
deriving DecidableEq, Repr

namespace LogLevel

def tag : LogLevel → String
  | debug => "DEBUG"
  | info => "INFO"
  | warn => "WARN"
  | error => "ERROR"

def rank : LogLevel → Nat
  | debug => 0
  | info => 1
  | warn => 2
  | error => 3

end LogLevel

structure LogEntry where
  level : LogLevel
  message : String
  run : Option String
deriving DecidableEq, Repr

def logThreshold (quiet verbose : Bool) : LogLevel :=
  if quiet then .warn else if verbose then .debug else .info

def LogEntry.isWritten (threshold : LogLevel) (e : LogEntry) : Bool :=
  threshold.rank ≤ e.level.rank

def LogEntry.text (format : LogFormat) (moment : Moment) (e : LogEntry) : String :=
  match format with
  | .compact =>
    moment.text ++ " " ++ e.level.tag ++ " " ++
      ((e.run.map fun id => "run\x7brun_id=" ++ id ++ "\x7d: ").getD "") ++ e.message
  | .json =>
    let span := e.run.map fun id =>
      ("span", Json.Value.object [("run_id", .string id), ("name", .string "run")])
    (Json.Value.object ([
      ("timestamp", .string moment.text),
      ("level", .string e.level.tag),
      ("fields", .object [("message", .string e.message)])] ++ span.toList)).compact

/-! ## Entries of a run -/

abbrev Note := LogLevel × String

def changeNotes (state : IpState) (t : Transition) : List Note :=
  match t.kind with
  | .firstListing => [(.info, "CLEAN -> LISTED")]
  | .recovery =>
    (if state.backupPriority.isNone then [(.warn, "no saved priority, using fallback")] else []) ++
      [(.info, "LISTED -> CLEAN")]
  | .zoneChange => [(.info, "LISTED -> LISTED (zone change)")]

/-- What is told about one thing that a run did. -/
def effectNotes : Effect → List Note
  | .apply state t accepted =>
    changeNotes state t ++
      if accepted then [] else [(.error, "failed to persist transition")]
  | .ticket (.create _ _ _) => [(.info, "would create issue")]
  | .ticket (.comment _ _) => [(.info, "would add comment")]
  | .ticket (.outage _ _) =>
    [(.info, "would create DNS failure issue"), (.info, "opened DNS failure issue")]
  | .ticket (.find _) => []
  | .checked entry =>
    (if entry.action = .dryRun then [(.info, "dry run: would apply transition")] else []) ++
      [(.info, "ip check completed")]

/-- Whether something that a run did came after all addresses. -/
def Effect.isFinal : Effect → Bool
  | .ticket (.outage _ _) => true
  | _ => false

def connectivityNotes (c : Connectivity) : List Note :=
  if c.allUnreachable then [(.warn, "both public DNS resolvers unreachable")]
  else if c.enabled then [(.info, "public DNS reachable")]
  else []

def summaryNotes (settings : Settings) (summary : HealthSummary) (final : List Effect) :
    List Note :=
  (match summary.connectivity with
    | some c => connectivityNotes c
    | none => []) ++
  [(.debug, "built health summary")] ++
  (if 0 < summary.brokenZones then [(.warn, "broken DNSBL zones")] else []) ++
  (if summary.issueDetected then
    (.error, "DNS infrastructure failure detected") ::
      (if settings.dryRun then [(.info, "dry run: would open DNS failure issue")]
        else final.flatMap effectNotes)
  else [])

def openingNotes (settings : Settings) (rows : List Row) : List Note :=
  [(.info, "starting DNSBL run")] ++
  (if settings.dryRun then
    [(.info, "dry run: no store writes or ticket actions will happen")] else []) ++
  (rows.filter (·.state?.isNone)).map (fun _ =>
    (.warn, "skipping row with invalid IPv4 address")) ++
  [(.info, "loaded IP addresses")]

/-- The entries of a run over some rows. -/
def runEntries {σ ε τ ρ φ : Type} (settings : Settings) (id : String) (rows : List Row)
    (result : RunResult σ ε τ ρ φ) : List LogEntry :=
  let closing := match result.outcome with
    | .ok outcome =>
      summaryNotes settings outcome.summary (result.trace.filter (·.isFinal)) ++
        outcome.files.map (fun _ => (LogLevel.info, "wrote report")) ++
        [(.info, "run completed")]
    | .error _ => []
  (openingNotes settings rows ++
    (result.trace.filter (! ·.isFinal)).flatMap effectNotes ++ closing).map
      fun note => ⟨note.1, note.2, some id⟩

end BlocklistWatch
