import BlocklistWatch.Coding.Basic

/-!
# Issues

An issue of the ticket system as far as it matters here.

* `Issue.mostRecent?` picks the issue that was created last.
* `Issue.json` and `Issue.decoder` are its form in JSON.
-/

namespace BlocklistWatch

open Json (Value Decoder Shape)

structure Issue where
  key : String
  summary : String
  status : String
  created : Option Stamp
deriving DecidableEq, Repr, Inhabited

namespace Issue

/-- Compares times of creation as moments, whatever offset they were written under; one that is not
known comes before all others. -/
def compareCreated : Option Stamp → Option Stamp → Ordering
  | none, none => .eq
  | none, some _ => .lt
  | some _, none => .gt
  | some s, some t =>
    if s.moment.before t.moment then .lt
    else if t.moment.before s.moment then .gt
    else .eq

/-- The first issue after a sort by time of creation, latest first, that leaves issues of one time
in their order; a list of one issue is not sorted. -/
def mostRecent? (issues : List Issue) : Option Issue :=
  let ordered :=
    if 1 < issues.length then
      issues.mergeSort fun a b => (compareCreated b.created a.created).isLE
    else issues
  ordered.head?

def json (i : Issue) : Value :=
  .object [
    ("key", .string i.key),
    ("summary", .string i.summary),
    ("status", .string i.status),
    ("created", .optional (·.json) i.created)]

def decoder : Decoder Issue :=
  (Shape.pure mk
    |>.seq (.required "key" .text)
    |>.seq (.required "summary" .text)
    |>.seq (.required "status" .text)
    |>.seq (.nullable "created" Stamp.decoder)).decoder "Issue"

end Issue

end BlocklistWatch
