import BlocklistWatch.CommandLine.Help
import BlocklistWatch.CommandLine.Session
import Std.Time.DateTime.Timestamp

/-!
# The program

The outer layer: what a command needs is collected beforehand, the command is carried out as a
function of it, and what it did to the files is done to the real ones afterwards. There is no
resolver here, so every look-up fails and says so, and no way to a ticket server.
-/

open BlocklistWatch

namespace Program

def variableNames : List String :=
  (generalVariables.map (·.key)) ++ (ticketVariables.map (·.key)) ++
    ["DNSBL_MONITOR_CONFIG", "LOG_FORMAT", "DNSBL_RUN_ID", "CLICOLOR_FORCE", "CLICOLOR", "NO_COLOR",
      "XDG_CONFIG_HOME", "HOME"]

def readEnvironment : IO Environment := do
  let mut found : List (String × String) := []
  for key in variableNames do
    match ← IO.getEnv key with
    | some value => found := (key, value) :: found
    | none => pure ()
  return .ofList found

def readEntry (path : String) : IO (Option Entry) := do
  try
    return some (.file (← IO.FS.readFile path))
  catch
    | .noFileOrDirectory .. => return none
    | _ => return some .directory

def readFiles (files : Files) (paths : List String) : IO Files := do
  let mut files := files
  for path in paths do
    files := files.set path (← readEntry path)
  return files

def noResolver : Lookup :=
  fun _ => .answer (.failed "name resolution is not available") 0

def settingsFiles (m : Machine) (i : Invocation) : List String :=
  i.config.toList ++ [Machine.localFile] ++ m.userFile?.toList

def workFiles (m : Machine) (i : Invocation) : List String :=
  match m.loadSettings (m.settingsFile? i.config) with
  | .error _ => []
  | .ok s =>
    let dir := match i.command with
      | .run o => o.reportDir.or s.reportDir
      | _ => s.reportDir
    [s.storePath, FileStore.draftPath s.storePath] ++
      dir.toList.flatMap fun dir => [dir, pathIn dir summaryFile, pathIn dir prunedFile]

def perform : FileAction → IO Unit
  | .write path content => IO.FS.writeFile path content
  | .rename source target => IO.FS.rename source target
  | .remove path => IO.FS.removeFile path
  | .makeDirectory path => IO.FS.createDirAll path

def now : IO Moment := do
  let t ← Std.Time.Timestamp.now
  let nanos := t.toNanosecondsSinceUnixEpoch.val
  return ⟨nanos / Time.nanosPerSecond, (nanos % Time.nanosPerSecond).toNat⟩

def carryOut (environment : Environment) (i : Invocation) : IO UInt32 := do
  let machine : Machine := {
    environment := environment
    home := environment "HOME"
    disk := .ofFiles fun _ => none
    moment := ← now
    process := ← IO.rand 1 0xFFFF
    lookup := fun _ _ => noResolver
    cloudflare := noResolver
    google := noResolver
    server := fun _ s => (none, s)
    isTerminal := ← (← IO.getStdout).isTty }
  let files ← readFiles (fun _ => none) (settingsFiles machine i)
  let machine := { machine with disk := .ofFiles files }
  let files ← readFiles files (workFiles machine i)
  let machine := { machine with disk := .ofFiles files }
  let outcome := machine.execute i
  for (action, _) in outcome.disk.past.reverse do
    try perform action catch e => IO.eprintln s!"{e}"
  let threshold := logThreshold i.quiet i.verbose
  let terminalLog ← (← IO.getStderr).isTty
  let format := i.logFormat.getD (if terminalLog then .compact else .json)
  for entry in outcome.entries.filter (·.isWritten threshold) do
    IO.eprintln (entry.text format machine.moment)
  IO.print outcome.output
  IO.eprint outcome.errors
  return outcome.code.toUInt32

end Program

/-- The program: it ends with 2 where the command line is not understood. -/
def main (args : List String) : IO UInt32 := do
  let environment ← Program.readEnvironment
  match Invocation.parse environment args with
  | .ok i => Program.carryOut environment i
  | .error .help =>
    IO.print helpText
    return 0
  | .error .version =>
    IO.print versionText
    return 0
  | .error .wrong =>
    IO.eprint helpText
    return 2
