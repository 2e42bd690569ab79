import BlocklistWatch.CommandLine.Machine
import BlocklistWatch.CommandLine.Paint
import BlocklistWatch.RunContext
import BlocklistWatch.Tickets.Jira.Client

/-!
# The command for a whole pass

One pass over all stored addresses, with the files, the ticket system and the reports that the
settings name.

* `Machine.pass` is the command.
-/

namespace BlocklistWatch

open Json (Value)

namespace Machine

/-- The settings with the options of a pass over them. -/
def passSettings (o : RunOptions) (s : Settings) : Settings :=
  { s with
    dryRun := s.dryRun || o.dryRun
    probing := { s.probing with networkCheck := s.probing.networkCheck && ! o.noNetworkCheck }
    reportDir := o.reportDir.or s.reportDir }

def runName (m : Machine) (o : RunOptions) : String :=
  let given := (o.runId.map Text.trim).filter (! ·.isEmpty)
  given.getD (RunContext.generatedId m.moment m.process 0)

/-- A record with its fields in increasing order of their names. -/
def sortedRecord : Value → Value
  | .object members => .object (Json.sortMembers members)
  | v => v

def runReport (id : String) (outcome : RunOutcome) (durationMs : Nat) : Value :=
  .object [
    ("broken_zones", .strings outcome.summary.brokenZoneNames),
    ("network_issue_detected", .bool outcome.summary.issueDetected),
    ("reports", .strings outcome.files),
    ("run_id", .string id),
    ("stats", sortedRecord (outcome.stats.json durationMs))]

def runLine (label value : String) : String :=
  "  " ++ padded 18 label ++ " " ++ value ++ "\n"

def runText (colors : Bool) (id : String) (outcome : RunOutcome) (durationMs : Nat) : String :=
  let stats := outcome.stats
  let broken := outcome.summary.brokenZoneNames
  let count (color : Color) (n : Nat) : String := (Paint.of color).text colors (Text.decimal n)
  let failures :=
    if 0 < stats.ticketFailures ∨ 0 < stats.storeFailures then
      "  " ++ (Paint.of .yellow).text colors (padded 18 "Failures:") ++ " " ++
        Text.decimal stats.ticketFailures ++ " ticket, " ++ Text.decimal stats.storeFailures ++
        " store\n"
    else ""
  let zones :=
    if broken.isEmpty then (Paint.of .green).text colors "all healthy"
    else Text.decimal broken.length ++ " of " ++ Text.decimal outcome.summary.totalZones ++
      " broken: " ++ (Paint.of .red).text colors (", ".intercalate broken)
  let outage :=
    if outcome.summary.issueDetected then
      "  " ++ (Paint.boldOf .red).text colors "DNS infrastructure failure detected" ++ "\n"
    else ""
  Paint.strong.text colors "Run" ++ " " ++ Paint.faint.text colors id ++ "\n" ++
    runLine "IPs checked:" (Text.decimal stats.total) ++
    runLine "Listed:" (count .red stats.listed) ++
    runLine "Cleaned:" (count .green stats.cleaned) ++
    runLine "Unchanged:" (Text.decimal stats.unchanged) ++
    runLine "Tickets:" (Text.decimal stats.ticketsCreated ++ " created, " ++
      Text.decimal stats.ticketsUpdated ++ " updated") ++
    failures ++ runLine "Zones:" zones ++ outage ++
    String.join (outcome.files.map (runLine "Report:")) ++
    runLine "Duration:" (Text.decimal durationMs ++ " ms")

def keptReports : ReportDesk Unit ReportError where
  publish _ s := (.ok [], s)

/-- Puts the reports of a run where they belong: into a directory, or into the output. -/
def publish (dir : Option String) (summary : HealthSummary) (p : Progress) :
    Except ReportError (List String) × Progress :=
  match dir with
  | none => (.ok [], { p with output := p.output ++ printedReports summary })
  | some dir =>
    let (answer, disk) := publishTo dir summary p.disk
    (answer, { p with disk := disk })

/-- Shows how a run came out; where there is no directory the reports have been shown already. -/
def showRun (format : OutputFormat) (colors : Bool) (s : Settings) (id : String)
    (outcome : RunOutcome) (durationMs : Nat) : String :=
  if s.reportDir.isNone then ""
  else
    match format.render (runReport id outcome durationMs) with
    | some rendered => rendered ++ "\n"
    | none => runText colors id outcome durationMs

def runWith {τ : Type} (m : Machine) (tickets : TicketDesk τ) (desk : τ) (format : OutputFormat)
    (colors : Bool) (o : RunOptions) (s : Settings) (store : FileStore) (p : Progress) :
    Except Failure Unit × Progress :=
  let id := m.runName o
  let c : Collaborators (FileStore × Disk) StoreError τ Unit ReportError :=
    ⟨fileStoreDesk, tickets, keptReports, m.lookup, m.cloudflare, m.google⟩
  let result := c.run s m.moment 0 (store, p.disk) desk ()
  let entries (result : RunResult (FileStore × Disk) StoreError τ Unit ReportError) :=
    p.entries ++ runEntries s id store.rows result
  let p := { p with disk := result.store.2 }
  match result.outcome with
  | .error e => (.error (.ofRun e), { p with entries := entries result })
  | .ok outcome =>
    let outcome := { outcome with
      summary := { outcome.summary with durationMs := result.elapsed } }
    match publish s.reportDir outcome.summary p with
    | (.error e, p) =>
      (.error (.ofRun (.report e)),
        { p with entries := entries { result with outcome := .error (.report e) } })
    | (.ok files, p) =>
      let outcome := { outcome with files := files }
      (.ok (), { p with
        entries := entries { result with outcome := .ok outcome }
        output := p.output ++ showRun format colors s id outcome result.elapsed })

/-- One pass over all stored addresses. Tickets go to the configured system unless changes are only
logged. -/
def pass (m : Machine) (format : OutputFormat) (colors : Bool) (o : RunOptions) (s : Settings)
    (p : Progress) : Except Failure Unit × Progress :=
  match validSettings (passSettings o s) with
  | .error f => (.error f, p)
  | .ok s =>
    match FileStore.open? p.disk s.storePath with
    | .error e =>
      (.error ((Failure.ofStore e).within ("could not open IP store " ++ s.storePath)), p)
    | .ok store =>
      let p := { p with entries := p.entries ++ [LogEntry.mk .debug "loaded IP store" none] }
      match s.tickets with
      | none =>
        let note : LogEntry :=
          ⟨.info, "Jira not configured, ticket actions will only be logged", none⟩
        m.runWith .silent 0 format colors o s store { p with entries := p.entries ++ [note] }
      | some t =>
        if s.dryRun then m.runWith .silent 0 format colors o s store p
        else
          match JiraClient.build? t JiraClient.standardUserAgent .standard with
          | .error e =>
            (.error ((Failure.of e.message).within "could not set up the Jira client"), p)
          | .ok client =>
            m.runWith (client.desk m.server) () format colors o s store p

end Machine

end BlocklistWatch
