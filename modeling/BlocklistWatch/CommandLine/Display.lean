import BlocklistWatch.Coding.Finding
import BlocklistWatch.Coding.Settings
import BlocklistWatch.CommandLine.Machine
import BlocklistWatch.CommandLine.Paint
import BlocklistWatch.Report.Format

/-!
# Commands that only show something

The settings in force, one address at all zones, and whether public resolvers answer.

* `Machine.showSettings`, `Machine.check` and `Machine.askResolvers` are these commands.
-/

namespace BlocklistWatch

open Json (Value)

namespace Machine

/-! ## The settings command -/

def shownSettings (format : OutputFormat) (s : Settings) : Except Failure String :=
  match format with
  | .json => .ok (s.json.pretty ++ "\n")
  | .yaml => .ok (Yaml.render s.json)
  | .text =>
    match s.document? with
    | some text => .ok text
    | none => .error (.of "out-of-range value for u64 type")

def showSettings (file : Option String) (format : OutputFormat) (colors : Bool) (s : Settings)
    (p : Progress) : Except Failure Unit × Progress :=
  let source :=
    if format = .text then
      Paint.faint.text colors "# Loaded from:" ++ " " ++
        file.getD "defaults and environment" ++ "\n"
    else ""
  let p := { p with errors := p.errors ++ source }
  match shownSettings format s.redacted with
  | .error f => (.error f, p)
  | .ok shown =>
    let warning := match s.validate.2 with
      | none => ""
      | some fault =>
        (Paint.boldOf .yellow).text colors "warning:" ++ " " ++
          (SettingsError.unfit fault).message ++ "\n"
    (.ok (), { p with output := p.output ++ shown, errors := p.errors ++ warning })

/-! ## The check of one address -/

def checkReport (ip : Ipv4) (findings : List Finding) (moment : Moment) : Value :=
  let seen := findings.map (·.observation)
  let listed := (Observation.zonesWith .listed seen).toList
  .object [
    ("ip", ip.json),
    ("listed", .bool ! listed.isEmpty),
    ("listed_zones", .strings listed),
    ("unknown_zones", .strings (Observation.zonesWith .unknown seen).toList),
    ("results", .array (findings.map fun f => (f.record moment).json))]

def statusWord (colors : Bool) (status : ProbeStatus) : String :=
  let (color, word) := match status with
    | .listed => (Color.red, "listed")
    | .notListed => (.green, "clean")
    | .unknown => (.yellow, "unknown")
  (Paint.of color).text colors (padded 8 word)

def checkText (colors : Bool) (ip : Ipv4) (findings : List Finding) : String :=
  let listed := findings.any (·.verdict.status = .listed)
  let verdict :=
    if listed then (Paint.boldOf .red).text colors "LISTED"
    else (Paint.boldOf .green).text colors "CLEAN"
  (Paint.boldOf .cyan).text colors ip.text ++ " " ++ verdict ++ "\n" ++
    String.join (findings.map fun f =>
      "  " ++ padded 32 f.zone ++ " " ++ statusWord colors f.verdict.status ++ " " ++
        Paint.faint.text colors f.verdict.detail ++ "\n")

def check (m : Machine) (format : OutputFormat) (colors : Bool) (ip : Ipv4) (zones : List String)
    (s : Settings) (p : Progress) : Except Failure Unit × Progress :=
  let s := if zones.isEmpty then s else { s with probing := { s.probing with zones := zones } }
  if s.probing.zones.all isBlankText then
    (.error (.of "no zones to check: pass --zone or configure [dns].zones"), p)
  else
    match validSettings s with
    | .error f => (.error f, p)
    | .ok s =>
      let prober : Prober := ⟨m.lookup 0, s.probing.timeoutMs⟩
      let result := checkAddress prober none ip s.probing.zones s.probing.concurrency
      match result.findings with
      | .error e => (.error (.of e.message), p)
      | .ok findings =>
        let p := { p with entries := p.entries ++ [LogEntry.mk .debug "fan-out complete" none] }
        let shown := match format.render (checkReport ip findings m.moment) with
          | some rendered => rendered ++ "\n"
          | none => checkText colors ip findings
        (.ok (), { p with output := p.output ++ shown })

/-! ## The public resolvers -/

def connectivityReport (c : Connectivity) : Value :=
  .object [
    ("cloudflare_reachable", .bool (c.cloudflare.getD false)),
    ("google_reachable", .bool (c.google.getD false)),
    ("all_unreachable", .bool c.allUnreachable)]

def connectivityText (colors : Bool) (c : Connectivity) : String :=
  let mark (reachable : Option Bool) : String :=
    if reachable.getD false then (Paint.of .green).text colors "reachable"
    else (Paint.of .red).text colors "unreachable"
  Paint.strong.text colors "Public DNS resolvers:" ++ "\n" ++
    "  " ++ padded 22 "Cloudflare (1.1.1.1)" ++ " " ++ mark c.cloudflare ++ "\n" ++
    "  " ++ padded 22 "Google (8.8.8.8)" ++ " " ++ mark c.google ++ "\n" ++
    if c.allUnreachable then
      "\n" ++ (Paint.boldOf .red).text colors "Outbound DNS appears to be down." ++ "\n"
    else ""

def askResolvers (m : Machine) (format : OutputFormat) (colors : Bool) (s : Settings)
    (p : Progress) : Except Failure Unit × Progress :=
  let c := checkConnectivity m.cloudflare m.google s.probing.timeoutMs
  let shown := match format.render (connectivityReport c) with
    | some rendered => rendered ++ "\n"
    | none => connectivityText colors c
  let entries := (connectivityNotes c).map fun note => LogEntry.mk note.1 note.2 none
  (.ok (), { p with output := p.output ++ shown, entries := p.entries ++ entries })

end Machine

end BlocklistWatch
