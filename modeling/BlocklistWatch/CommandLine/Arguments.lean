import BlocklistWatch.Config.Environment
import BlocklistWatch.Ipv4
import BlocklistWatch.Report.Format

/-!
# Arguments

What is asked for on the command line: a command with its options, and options that may stand in
front of the command as well as after it. Some options take their value from the environment where
they are not given.

* `Invocation` is a command line that was understood.
* `Invocation.parse` understands one.
-/

namespace BlocklistWatch

inductive LogFormat where
  | compact
  | json
deriving DecidableEq, Repr, Inhabited

def LogFormat.tag : LogFormat → String
  | compact => "compact"
  | json => "json"

structure RunOptions where
  dryRun : Bool
  noNetworkCheck : Bool
  reportDir : Option String
  runId : Option String
deriving DecidableEq, Repr

inductive Command where
  | run (options : RunOptions)
  /-- Checks one address at the given zones, or at those of the settings if none are given. -/
  | check (ip : Ipv4) (zones : List String)
  | connectivity
  | settings
deriving DecidableEq, Repr

structure Invocation where
  config : Option String
  output : Option OutputFormat
  logFormat : Option LogFormat
  verbose : Bool
  quiet : Bool
  noColor : Bool
  command : Command
deriving DecidableEq, Repr

inductive Usage where
  | wrong
  | help
  | version
deriving DecidableEq, Repr

/-! ## Options -/

inductive Switch where
  | config
  | output
  | logFormat
  | verbose
  | quiet
  | noColor
  | dryRun
  | noNetworkCheck
  | reportDir
  | runId
  | zone
  | help
  | version
deriving DecidableEq, Repr

/-- How an option is written: its long name, its letter, and whether it takes a value. -/
structure SwitchForm where
  switch : Switch
  long : String
  letter : Option Char
  takesValue : Bool
deriving DecidableEq, Repr

def generalSwitches : List SwitchForm := [
  ⟨.config, "config", some 'c', true⟩,
  ⟨.output, "output", some 'o', true⟩,
  ⟨.logFormat, "log-format", none, true⟩,
  ⟨.verbose, "verbose", some 'v', false⟩,
  ⟨.quiet, "quiet", some 'q', false⟩,
  ⟨.noColor, "no-color", none, false⟩,
  ⟨.help, "help", some 'h', false⟩,
  ⟨.version, "version", some 'V', false⟩]

def runSwitches : List SwitchForm := [
  ⟨.dryRun, "dry-run", none, false⟩,
  ⟨.noNetworkCheck, "no-network-check", none, false⟩,
  ⟨.reportDir, "report-dir", none, true⟩,
  ⟨.runId, "run-id", none, true⟩]

def checkSwitches : List SwitchForm := [⟨.zone, "zone", some 'z', true⟩]

/-- What was given at one level of the command line, in order. -/
structure Words where
  switches : List (Switch × String)
  plain : List String
deriving Repr

namespace Words

def none : Words := ⟨[], []⟩

def values (w : Words) (s : Switch) : List String :=
  (w.switches.filter (·.1 = s)).map (·.2)

def has (w : Words) (s : Switch) : Bool :=
  w.switches.any (·.1 = s)

def value? (w : Words) (s : Switch) : Option String :=
  (w.values s).head?

/-- The words with one more option. Only zones may be given several times; an explanation or the
version takes the place of everything else. -/
def add (w : Words) (s : Switch) (value : String) : Except Usage Words :=
  match s with
  | .help => .error .help
  | .version => .error .version
  | .zone => .ok { w with switches := w.switches ++ [(s, value)] }
  | s => if w.has s then .error .wrong else .ok { w with switches := w.switches ++ [(s, value)] }

end Words

/-- What a group of letters after one dash means: the words so far and an option that still lacks
its value. -/
def readLetters (forms : List SwitchForm) (w : Words) :
    List Char → Except Usage (Words × Option Switch)
  | [] => .ok (w, none)
  | c :: cs =>
    match forms.find? (·.letter = some c) with
    | none => .error .wrong
    | some form =>
      if form.takesValue then
        match cs with
        | [] => .ok (w, some form.switch)
        | '=' :: cs => (w.add form.switch (.ofList cs)).map fun w => (w, none)
        | cs => (w.add form.switch (.ofList cs)).map fun w => (w, none)
      else
        match w.add form.switch "" with
        | .error e => .error e
        | .ok w => readLetters forms w cs

def readLong (forms : List SwitchForm) (w : Words) (cs : List Char) :
    Except Usage (Words × Option Switch) :=
  let (name, rest) := cs.span (· != '=')
  match forms.find? (·.long = .ofList name), rest with
  | none, _ => .error .wrong
  | some form, [] =>
    if form.takesValue then .ok (w, some form.switch)
    else (w.add form.switch "").map fun w => (w, none)
  | some form, _ :: value =>
    if form.takesValue then (w.add form.switch (.ofList value)).map fun w => (w, none)
    else .error .wrong

/-- The words of one level. With `stops`, the first plain word and all after it are left over. -/
def readWords (forms : List SwitchForm) (stops : Bool) (w : Words) (waiting : Option Switch) :
    List String → Except Usage (Words × List String)
  | [] => if waiting.isSome then .error .wrong else .ok (w, [])
  | arg :: args =>
    match waiting, arg.toList with
    | some _, '-' :: _ :: _ => .error .wrong
    | some s, _ => do
      let w ← w.add s arg
      readWords forms stops w none args
    | none, ['-', '-'] =>
      if stops then .error .wrong else .ok ({ w with plain := w.plain ++ args }, [])
    | none, '-' :: '-' :: name => do
      let (w, waiting) ← readLong forms w name
      readWords forms stops w waiting args
    | none, '-' :: c :: cs => do
      let (w, waiting) ← readLetters forms w (c :: cs)
      readWords forms stops w waiting args
    | none, _ =>
      if stops then .ok (w, arg :: args)
      else readWords forms stops { w with plain := w.plain ++ [arg] } none args

/-! ## Commands -/

def named? {α : Type} (tag : α → String) (choices : List α) (name : String) : Except Usage α :=
  match choices.find? fun a => tag a = name with
  | some a => .ok a
  | none => .error .wrong

/-- The general options of one level, the environment being asked for those that are not given. -/
structure General where
  config : Option String
  output : Option OutputFormat
  logFormat : Option LogFormat
deriving Repr

def General.ofWords (env : Environment) (w : Words) : Except Usage General := do
  let config := (w.value? .config).or (env "DNSBL_MONITOR_CONFIG")
  if config = some "" then throw .wrong
  if w.has .verbose ∧ w.has .quiet then throw .wrong
  let output ← (w.value? .output).mapM (named? OutputFormat.tag [.text, .json, .yaml])
  let logFormat ← ((w.value? .logFormat).or (env "LOG_FORMAT")).mapM
    (named? LogFormat.tag [.compact, .json])
  return ⟨config, output, logFormat⟩

def commandOf (env : Environment) (name : String) (w : Words) : Except Usage Command :=
  match name, w.plain with
  | "run", [] =>
    let dir := w.value? .reportDir
    if dir = some "" then .error .wrong
    else .ok (.run ⟨w.has .dryRun, w.has .noNetworkCheck, dir,
      (w.value? .runId).or (env "DNSBL_RUN_ID")⟩)
  | "check", [ip] =>
    match Ipv4.parse? ip with
    | some ip => .ok (.check ip (w.values .zone))
    | none => .error .wrong
  | "connectivity", [] => .ok .connectivity
  | "config", [] => .ok .settings
  | _, _ => .error .wrong

def switchesOf? (name : String) : Option (List SwitchForm) :=
  match name with
  | "run" => some (runSwitches ++ generalSwitches)
  | "check" => some (checkSwitches ++ generalSwitches)
  | "connectivity" | "config" => some generalSwitches
  | _ => none

/-- Understands a command line. An option that is given in front of the command and after it counts
as it stands after it. -/
def Invocation.parse (env : Environment) (args : List String) : Except Usage Invocation := do
  match ← readWords generalSwitches true .none none args with
  | (_, []) => throw .wrong
  | (_, "help" :: _) => throw .help
  | (front, name :: args) =>
    match switchesOf? name with
    | none => throw .wrong
    | some forms =>
      let (back, _) ← readWords forms false .none none args
      let command ← commandOf env name back
      let last ← General.ofWords env back
      let first ← General.ofWords env front
      return {
        config := ((back.value? .config).or (front.value? .config)).or first.config
        output := last.output.or first.output
        logFormat := if back.has .logFormat then last.logFormat else first.logFormat
        verbose := front.has .verbose || back.has .verbose
        quiet := front.has .quiet || back.has .quiet
        noColor := front.has .noColor || back.has .noColor
        command := command }

end BlocklistWatch
