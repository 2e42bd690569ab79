import BlocklistWatch.CommandLine.Failure
import BlocklistWatch.CommandLine.Log
import BlocklistWatch.Config.File
import BlocklistWatch.Config.Validation
import BlocklistWatch.Web.Http

/-!
# Machines

What a command finds when it starts, and how it comes to its settings.

* `Machine` is what a command finds, `CommandOutcome` what it leaves.
* `Machine.loadSettings` reads the settings, `validSettings` checks them.
-/

namespace BlocklistWatch

/-! ## What a command finds and leaves -/

structure Machine where
  environment : Environment
  home : Option String
  disk : Disk
  moment : Moment
  process : Nat
  /-- What the look-up replies to the probe of a zone while the address at a position is checked. -/
  lookup : Nat → String → Lookup
  cloudflare : Lookup
  google : Lookup
  server : Web.HttpServer Unit
  isTerminal : Bool

/-- What a command leaves: what it printed, what it wrote to the log, and the files. -/
structure CommandOutcome where
  code : Nat
  output : String
  errors : String
  entries : List LogEntry
  disk : Disk

structure Progress where
  output : String
  errors : String
  entries : List LogEntry
  disk : Disk

def Progress.finish (p : Progress) (answer : Except Failure Unit) : CommandOutcome :=
  match answer with
  | .ok () => ⟨0, p.output, p.errors, p.entries, p.disk⟩
  | .error f => ⟨1, p.output, p.errors ++ f.text ++ "\n", p.entries, p.disk⟩

namespace Machine

/-! ## Settings -/

def localFile : String := "dnsbl-monitor.toml"

def userFile? (m : Machine) : Option String :=
  let given := (m.environment "XDG_CONFIG_HOME").filter (·.startsWith "/")
  (given.or (m.home.map fun home => pathIn home ".config")).map fun dir =>
    pathIn (pathIn dir "dnsbl-monitor") "config.toml"

/-- The file that the settings are read from. -/
def settingsFile? (m : Machine) (given : Option String) : Option String :=
  let isThere (path : String) : Bool := (m.disk.files path).isSome
  given.or (if isThere localFile then some localFile else m.userFile?.filter isThere)

def readSettings (m : Machine) (path : String) : Except Failure Settings :=
  match m.disk.read path with
  | .error e => .error (.ofFile ("failed to read " ++ path ++ ": " ++ e.message) e)
  | .ok content =>
    match Settings.ofDocument? content with
    | some s => .ok s
    | none => .error ⟨"failed to parse " ++ path ++ ": TOML parse error", ["TOML parse error"]⟩

/-- The settings in force: those of the file with the environment over them. -/
def loadSettings (m : Machine) (file : Option String) : Except Failure Settings := do
  let s ← match file with
    | some path => m.readSettings path
    | none => .ok .standard
  match s.overlay m.environment with
  | (s, none) => return s
  | (_, some e) => throw (.of e.message)

def validSettings (s : Settings) : Except Failure Settings :=
  match s.validate with
  | (s, none) => .ok s
  | (_, some fault) => .error (.of (SettingsError.unfit fault).message)

end Machine

end BlocklistWatch
