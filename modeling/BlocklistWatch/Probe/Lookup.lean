import BlocklistWatch.Probe.Verdict

/-!
# Look-ups

A look-up is asked for a name and replies after a while, dies, or stays silent. Whoever asks waits
up to a deadline; an answer that comes at the deadline still counts. Time is counted in milliseconds.

* `Lookup` is what a look-up replies to one who asks once: on that occasion a name has one reply. On
  another occasion the same name may have another one, so whoever asks more than once has a `Lookup`
  for each occasion.
* `Reply.await` is what waiting comes to.
* `LookupTable` is a look-up that answers from a table, `LookupScript` one that can also be slow and
  die at chosen names.
-/

namespace BlocklistWatch

inductive Reply where
  | answer (outcome : Outcome) (after : Nat)
  | death (reason : String) (after : Nat)
  | silence
deriving DecidableEq, Repr, Inhabited

/-- What a look-up replies on one occasion, by the name that it is asked for. -/
abbrev Lookup := String → Reply

inductive Awaited where
  | outcome (o : Outcome)
  | death (reason : String)
deriving DecidableEq, Repr, Inhabited

namespace Reply

def due? : Reply → Option Nat
  | answer _ after => some after
  | death _ after => some after
  | silence => none

/-- What comes of waiting for the reply until the deadline. -/
def await (deadline : Nat) : Reply → Awaited
  | answer outcome after => if after ≤ deadline then .outcome outcome else .outcome .timeout
  | death reason after => if after ≤ deadline then .death reason else .outcome .timeout
  | silence => .outcome .timeout

/-- How long one waits for the reply, at most until the deadline. -/
def wait (deadline : Nat) (r : Reply) : Nat :=
  min (r.due?.getD deadline) deadline

theorem wait_le (deadline : Nat) (r : Reply) : r.wait deadline ≤ deadline :=
  Nat.min_le_right _ _

end Reply

/-! ## Look-ups from a table -/

structure LookupTable where
  answers : List (String × Outcome)
  fallback : Outcome
  delay : Nat
deriving DecidableEq, Repr, Inhabited

namespace LookupTable

/-- The answer at a name: names are compared without their trailing dots, and of several answers the
last counts. -/
def outcome (t : LookupTable) (name : String) : Outcome :=
  let bare := Text.dropTrailingDots name
  match t.answers.reverse.find? fun entry => Text.dropTrailingDots entry.1 == bare with
  | some (_, outcome) => outcome
  | none => t.fallback

def lookup (t : LookupTable) : Lookup :=
  fun name => .answer (t.outcome name) t.delay

end LookupTable

/-- A table with further waits and deaths at chosen names, which are compared as they are asked. -/
structure LookupScript where
  table : LookupTable
  waits : List (String × Nat)
  dying : List String
deriving DecidableEq, Repr, Inhabited

namespace LookupScript

def extraWait (s : LookupScript) (name : String) : Nat :=
  match s.waits.find? (·.1 == name) with
  | some (_, ms) => ms
  | none => 0

def lookup (s : LookupScript) : Lookup := fun name =>
  if s.dying.contains name then .death ("lookup blew up for " ++ name) 0
  else .answer (s.table.outcome name) (s.extraWait name + s.table.delay)

end LookupScript

end BlocklistWatch
