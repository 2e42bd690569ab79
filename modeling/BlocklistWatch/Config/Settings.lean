/-!
# Settings

Everything that can be set: the zones and how they are probed, the priorities that are written, where
the rows are kept, the ticket system, and where the reports go.

* `Settings` is all of them; `Settings.standard` is what holds where nothing is set.
* `Settings.redacted` hides the secret for display.
-/

namespace BlocklistWatch

structure ProbeSettings where
  zones : List String
  timeoutSecs : Nat
  concurrency : Nat
  networkCheck : Bool
deriving DecidableEq, Repr, Inhabited

def ProbeSettings.standard : ProbeSettings :=
  ⟨[], 5, 10, true⟩

/-- The time given to a look-up, in milliseconds. -/
def ProbeSettings.timeoutMs (s : ProbeSettings) : Nat :=
  s.timeoutSecs * 1000

structure PriorityPolicy where
  /-- The priority of an address that becomes listed. -/
  listed : UInt8
  /-- The priority of an address that becomes clean and whose former priority is not known. -/
  fallback : UInt8
deriving DecidableEq, Repr, Inhabited

def PriorityPolicy.standard : PriorityPolicy :=
  ⟨0, 50⟩

structure TicketSettings where
  server : String
  user : String
  token : String
  project : String
  issueType : String
  outageIssueType : String
  /-- Statuses of issues that count as closed. -/
  closedStatuses : List String
deriving DecidableEq, Repr, Inhabited

def TicketSettings.standard : TicketSettings :=
  ⟨"", "", "", "", "Task", "Incident", ["Done", "Closed", "Resolved"]⟩

structure Settings where
  dryRun : Bool
  probing : ProbeSettings
  priority : PriorityPolicy
  storePath : String
  tickets : Option TicketSettings
  /-- The directory for the reports; they are printed if there is none. -/
  reportDir : Option String
deriving DecidableEq, Repr, Inhabited

namespace Settings

def standard : Settings where
  dryRun := false
  probing := .standard
  priority := .standard
  storePath := "ip_addresses.json"
  tickets := none
  reportDir := none

/-- The settings for display, a token that is set being hidden. -/
def redacted (s : Settings) : Settings :=
  { s with tickets := s.tickets.map fun t =>
      if t.token = "" then t else { t with token := "********" } }

end Settings

end BlocklistWatch
