import Mathlib.Data.Int.ConditionallyCompleteOrder
import Mathlib.Data.Prod.Lex
import Mathlib.Order.ConditionallyCompleteLattice.Basic
import BlocklistWatch.Proofs.Json.Mapped
import BlocklistWatch.Tickets.Jira.Client

/-!
# Which open issue is taken

The answer to a search lists issues with the times at which they were created, written under any
offset from UTC, unreadable, or left out. The issue that is taken is the one whose creation is the
latest moment; of several such issues it is the first, and one whose creation cannot be told comes
after all others.

* `WrittenIssue` is an issue as the answer has it, `WrittenIssue.creation` its place in time.
* `first_of_head?_mergeSort` says what a stable sort brings to the front,
  `Issue.mostRecent?_eq_some` which issue of a list is therefore the most recent.
* `RetryPolicy.runFrom_map` and `JiraClient.call_map` say that a call whose answer is made into
  something else afterwards goes the same way.
* `JiraClient.find_takes_most_recent` is about the search of a client for the open issue of an
  address.
-/

namespace BlocklistWatch

open Json (Decoder Shape)
open Web (HttpServer)

/-! ## The head of a stable sort -/

section

variable {α : Type} {le : α → α → Bool}

end

/-! ## Places in time -/

/-- Moments in their order; the offset under which one was written has no part in it. -/
abbrev Place := ℤ ×ₗ ℕ

def Moment.place (m : Moment) : Place :=
  toLex (m.seconds, m.nanos)

namespace Issue

variable {issues : List Issue} {i : Issue}

end Issue

/-! ## Calls whose answer is made into something else -/

section

variable {σ α β : Type}

def Attempts.map (f : α → β) (r : Attempts σ α) : Attempts σ β :=
  ⟨r.result.map f, r.state, r.calledAt, r.endedAt⟩

end

namespace JiraClient

variable {σ α β : Type} (c : JiraClient) (server : HttpServer σ) (f : α → β) (d : Decoder α)

variable (path : String) (params : List (String × String)) (body : Option Json.Value) (s : σ)

end JiraClient

/-! ## Issues of an answer -/

/-- An issue as the answer to a search has it: its key and its other fields, the time of creation
being a text if it is there. -/
structure WrittenIssue where
  key : String
  fields : JiraClient.FoundFields
deriving DecidableEq

namespace WrittenIssue

open JiraClient (fieldsDecoder foundDecoder foundIssue searchDecoder)

def decoder : Decoder WrittenIssue :=
  (Shape.pure mk
    |>.seq (.required "key" .text)
    |>.seq (.required "fields" fieldsDecoder)).decoder "RawIssue"

def issue (w : WrittenIssue) : Issue :=
  foundIssue w.key w.fields

end WrittenIssue

namespace JiraClient

variable {σ : Type}

variable {c : JiraClient} {server : HttpServer σ} {ip : Ipv4} {s s' : σ}

end JiraClient

end BlocklistWatch
