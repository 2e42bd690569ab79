import BlocklistWatch.Json.Value
import BlocklistWatch.Tickets.Desk
import BlocklistWatch.Transition

/-!
# What a run counts and reports

The counters of a run, what was done about tickets, and the entry that is logged for each address.

* `RunStats` are the counters.
* `TicketAction` says what was done about the ticket of an address.
* `CheckEntry` is the log entry of an address.
-/

namespace BlocklistWatch

structure RunStats where
  total : Nat
  /-- Addresses that became listed or are on other lists than before. -/
  listed : Nat
  cleaned : Nat
  unchanged : Nat
  ticketsCreated : Nat
  ticketsUpdated : Nat
  /-- Addresses whose ticket could not be handled, and outages that could not be reported. -/
  ticketFailures : Nat
  storeFailures : Nat
deriving DecidableEq, Repr, Inhabited

namespace RunStats

def zero : RunStats :=
  ⟨0, 0, 0, 0, 0, 0, 0, 0⟩

def countKind (s : RunStats) : TransitionKind → RunStats
  | .firstListing | .zoneChange => { s with listed := s.listed + 1 }
  | .recovery => { s with cleaned := s.cleaned + 1 }

def json (s : RunStats) (durationMs : Nat) : Json.Value :=
  .object [
    ("total", .nat s.total),
    ("listed", .nat s.listed),
    ("cleaned", .nat s.cleaned),
    ("unchanged", .nat s.unchanged),
    ("tickets_created", .nat s.ticketsCreated),
    ("tickets_updated", .nat s.ticketsUpdated),
    ("ticket_failures", .nat s.ticketFailures),
    ("store_failures", .nat s.storeFailures),
    ("duration_ms", .nat durationMs)]

end RunStats

inductive TicketAction where
  | none
  | dryRun
  | created (key : String)
  | updated (key : String)
  | failed
deriving DecidableEq, Repr, Inhabited

namespace TicketAction

def tag : TicketAction → String
  | none => "no_action"
  | dryRun => "dry_run"
  | created _ => "created_issue"
  | updated _ => "updated_issue"
  | failed => "failed"

def count (a : TicketAction) (s : RunStats) : RunStats :=
  match a with
  | created _ => { s with ticketsCreated := s.ticketsCreated + 1 }
  | updated _ => { s with ticketsUpdated := s.ticketsUpdated + 1 }
  | failed => { s with ticketFailures := s.ticketFailures + 1 }
  | none | dryRun => s

end TicketAction

structure CheckEntry where
  ip : Ipv4
  listedZones : String
  unknownZones : String
  decision : ListingState
  kind : Option TransitionKind
  written : Bool
  action : TicketAction
deriving DecidableEq, Repr

def CheckEntry.json (e : CheckEntry) : Json.Value :=
  let kind := match e.kind with
    | none => []
    | some kind => [("transition", Json.Value.string kind.tag)]
  .object ([
    ("ip", .string e.ip.text),
    ("listed_zones", .string e.listedZones),
    ("unknown_zones", .string e.unknownZones),
    ("decision", .string e.decision.tag)] ++ kind ++ [
    ("db_changes", .bool e.written),
    ("ticket_action", .string e.action.tag)])

end BlocklistWatch
