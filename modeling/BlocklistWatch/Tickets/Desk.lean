import BlocklistWatch.Decimal.Binary64
import BlocklistWatch.Ipv4
import BlocklistWatch.Tickets.Error
import BlocklistWatch.Tickets.Issue

/-!
# Ticket desks

What a run asks of a ticket system: find the open issue of an address, open issues, and comment on
them. A desk is any system that can be asked so, by how it answers and what it remembers.

* `TicketDesk` is that interface, `TicketCall` a call as a value.
* `TicketDesk.silent` opens nothing and hands out names of its own.
-/

namespace BlocklistWatch

inductive TicketCall where
  | find (ip : Ipv4)
  | create (ip : Ipv4) (zones : List String) (description : String)
  | comment (key body : String)
  | outage (fraction : Binary64) (zones : List String)
deriving DecidableEq, Repr

def TicketCall.json : TicketCall → Json.Value
  | find ip => .object [("call", .string "find"), ("with", ip.json)]
  | create ip zones description =>
    .object [("call", .string "create"),
      ("with", .array [ip.json, .strings zones, .string description])]
  | comment key body => .object [("call", .string "comment"), ("with", .strings [key, body])]
  | outage fraction zones =>
    .object [("call", .string "outage"), ("with", .array [.double fraction, .strings zones])]

structure TicketDesk (τ : Type) where
  find : Ipv4 → τ → Except TicketError (Option Issue) × τ
  create : Ipv4 → List String → String → τ → Except TicketError String × τ
  comment : String → String → τ → Except TicketError Unit × τ
  outage : Binary64 → List String → τ → Except TicketError String × τ

/-- A system that opens nothing; it remembers how many keys it has given out. -/
def TicketDesk.silent : TicketDesk Nat where
  find _ n := (.ok none, n)
  create _ _ _ n := (.ok ("NOOP-" ++ Text.decimal (n + 1)), n + 1)
  comment _ _ n := (.ok (), n)
  outage _ _ n := (.ok ("NOOP-" ++ Text.decimal (n + 1)), n + 1)

end BlocklistWatch
