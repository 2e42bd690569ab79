import BlocklistWatch.Config.Error
import BlocklistWatch.Config.Settings
import BlocklistWatch.Text.Blank
import BlocklistWatch.Text.Pieces

/-!
# Settings from the environment

Variables that go over the settings. A variable that is not set or has nothing but blanks leaves the
setting as it is; a value that cannot be read ends the overlay, the variables before it being in
force already.

* `Settings.overlay` goes through the variables in their order.
-/

namespace BlocklistWatch

abbrev Environment := String → Option String

namespace Environment

def ofList (entries : List (String × String)) : Environment :=
  fun key => (entries.find? (·.1 == key)).map (·.2)

/-- The value of a variable that is set to more than blanks. -/
def value? (env : Environment) (key : String) : Option String :=
  (env key).filter fun v => ¬ (Text.trim v).isEmpty

/-- The first environment where it has more than blanks, the second elsewhere. -/
def orElse (e₂ e₁ : Environment) : Environment :=
  fun key => (e₂.value? key).or (e₁ key)

end Environment

/-! ## Values -/

/-- The parts of a list separated by commas, without blanks at their ends, the empty ones dropped. -/
def splitList (s : String) : List String :=
  ((Text.pieces ',' s).map Text.trim).filter (· ≠ "")

def parseCount (max : Nat) (key value : String) : Except SettingsError Nat :=
  match Text.parseNatural max (Text.trim value) with
  | .ok n => .ok n
  | .error e => .error (.badValue key value e.message)

def parseByte (key value : String) : Except SettingsError UInt8 :=
  (parseCount (UInt8.size - 1) key value).map UInt8.ofNat

def parseSwitch (key value : String) : Except SettingsError Bool :=
  let word := Text.foldCase (Text.trim value)
  if word = "true" ∨ word = "1" ∨ word = "yes" then .ok true
  else if word = "false" ∨ word = "0" ∨ word = "no" then .ok false
  else .error (.badValue key value "expected true/false, 1/0 or yes/no")

/-! ## Variables -/

structure Variable (α : Type) where
  key : String
  set : α → String → Except SettingsError α

/-- The variables for all settings but those of the ticket system, in the order in which they are
looked at. -/
def generalVariables : List (Variable Settings) := [
  ⟨"DNSBL_ZONES", fun s v =>
    .ok { s with probing := { s.probing with zones := splitList v } }⟩,
  ⟨"DNS_TIMEOUT", fun s v => do
    let n ← parseCount (UInt64.size - 1) "DNS_TIMEOUT" v
    return { s with probing := { s.probing with timeoutSecs := n } }⟩,
  ⟨"DNS_CONCURRENCY", fun s v => do
    let n ← parseCount (UInt64.size - 1) "DNS_CONCURRENCY" v
    return { s with probing := { s.probing with concurrency := n } }⟩,
  ⟨"ENABLE_NETWORK_CONNECTIVITY_CHECK", fun s v => do
    let b ← parseSwitch "ENABLE_NETWORK_CONNECTIVITY_CHECK" v
    return { s with probing := { s.probing with networkCheck := b } }⟩,
  ⟨"LISTED_PRIORITY", fun s v => do
    let n ← parseByte "LISTED_PRIORITY" v
    return { s with priority := { s.priority with listed := n } }⟩,
  ⟨"CLEAN_FALLBACK_PRIORITY", fun s v => do
    let n ← parseByte "CLEAN_FALLBACK_PRIORITY" v
    return { s with priority := { s.priority with fallback := n } }⟩,
  ⟨"DRY_RUN", fun s v => do
    let b ← parseSwitch "DRY_RUN" v
    return { s with dryRun := b }⟩,
  ⟨"STORE_PATH", fun s v => .ok { s with storePath := v }⟩,
  ⟨"REPORT_DIR", fun s v => .ok { s with reportDir := some v }⟩]

def ticketVariables : List (Variable TicketSettings) := [
  ⟨"JIRA_SERVER", fun t v => .ok { t with server := v }⟩,
  ⟨"JIRA_USER", fun t v => .ok { t with user := v }⟩,
  ⟨"JIRA_API_TOKEN", fun t v => .ok { t with token := v }⟩,
  ⟨"JIRA_PROJECT", fun t v => .ok { t with project := v }⟩,
  ⟨"JIRA_ISSUE_TYPE", fun t v => .ok { t with issueType := v }⟩,
  ⟨"JIRA_DNS_FAILURE_ISSUE_TYPE", fun t v => .ok { t with outageIssueType := v }⟩,
  ⟨"JIRA_EXCLUDED_STATUSES", fun t v => .ok { t with closedStatuses := splitList v }⟩]

/-- What the variables of a list change, in their order: the outcome, and the error that ended it
early, if one did. -/
def applyVariables {α : Type} (env : Environment) : List (Variable α) → α →
    α × Option SettingsError
  | [], a => (a, none)
  | x :: xs, a =>
    match env.value? x.key with
    | none => applyVariables env xs a
    | some v =>
      match x.set a v with
      | .ok a => applyVariables env xs a
      | .error e => (a, some e)

namespace Settings

/-- The settings with the ticket system as the variables have it; it comes into being with the first
variable that is set. -/
def overlayTickets (s : Settings) (env : Environment) : Settings × Option SettingsError :=
  if ticketVariables.any fun x => (env.value? x.key).isSome then
    let (t, e) := applyVariables env ticketVariables (s.tickets.getD .standard)
    ({ s with tickets := some t }, e)
  else (s, none)

/-- The settings with the variables over them, and the error that ended it early, if one did. -/
def overlay (s : Settings) (env : Environment) : Settings × Option SettingsError :=
  match applyVariables env generalVariables s with
  | (s, some e) => (s, some e)
  | (s, none) => s.overlayTickets env

end Settings

end BlocklistWatch
