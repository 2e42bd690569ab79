import BlocklistWatch.Tickets.Desk

/-!
# Tickets in memory

A ticket system that knows which addresses have an open issue, gives out keys in sequence, and can
refuse calls of chosen kinds.

* `TicketLedger.desk` is that system.
-/

namespace BlocklistWatch

inductive TicketVerb where
  | find
  | create
  | comment
  | outage
deriving DecidableEq, Repr, Inhabited

def TicketVerb.all : List TicketVerb := [find, create, comment, outage]

def TicketVerb.tag : TicketVerb → String
  | find => "find"
  | create => "create"
  | comment => "comment"
  | outage => "outage"

/-- The state of the system: open issues by address, the number of keys given out, whether issues
that are opened stay open, and the kinds of calls that are refused. -/
structure TicketLedger where
  openIssues : List (Ipv4 × String)
  opened : Nat
  remembers : Bool
  refused : List TicketVerb
deriving DecidableEq, Repr, Inhabited

namespace TicketLedger

def refusal : TicketError :=
  .api 400 "refused"

def nextKey (l : TicketLedger) : String × TicketLedger :=
  ("OPS-" ++ Text.decimal (l.opened + 1), { l with opened := l.opened + 1 })

def issue? (l : TicketLedger) (ip : Ipv4) : Option Issue :=
  (l.openIssues.find? (·.1 = ip)).map fun entry =>
    ⟨entry.2, "IP " ++ ip.text, "Open", none⟩

def desk : TicketDesk TicketLedger where
  find ip l := if l.refused.contains .find then (.error refusal, l) else (.ok (l.issue? ip), l)
  create ip _ _ l :=
    if l.refused.contains .create then (.error refusal, l)
    else
      let (key, l) := l.nextKey
      let l := if l.remembers then { l with openIssues := (ip, key) :: l.openIssues } else l
      (.ok key, l)
  comment _ _ l := if l.refused.contains .comment then (.error refusal, l) else (.ok (), l)
  outage _ _ l :=
    if l.refused.contains .outage then (.error refusal, l)
    else
      let (key, l) := l.nextKey
      (.ok key, l)

end TicketLedger

end BlocklistWatch
