import BlocklistWatch.Coding.Basic

/-!
# Runs by name

Every run has a name under which its log entries can be found: one given by the caller, or one made
of the moment of its start, the number of its process and a running number.

* `RunContext.generatedId` makes such a name.
-/

namespace BlocklistWatch

open Json (Value Decoder Shape)

structure RunContext where
  id : String
  startedAt : Moment
deriving DecidableEq, Repr, Inhabited

namespace RunContext

/-- Date and time of a moment without separators, to the millisecond. -/
def compactTime (m : Moment) : String :=
  let date := Time.Date.ofDays (m.seconds / 86400)
  let second := (m.seconds % 86400).toNat
  let leap := if Time.nanosPerSecond ≤ m.nanos then 1 else 0
  Time.yearText date.year ++ Text.decimalPadded 2 date.month ++ Text.decimalPadded 2 date.day ++
    "T" ++ Text.decimalPadded 2 (second / 3600) ++ Text.decimalPadded 2 (second / 60 % 60) ++
    Text.decimalPadded 2 (second % 60 + leap) ++
    Text.decimalPadded 3 (m.nanos % Time.nanosPerSecond / 1000000) ++ "Z"

/-- A name made of the start, the number of the process in hexadecimal and a running number. -/
def generatedId (startedAt : Moment) (process sequence : Nat) : String :=
  compactTime startedAt ++ "-" ++ Text.hexadecimal process ++ "-" ++ Text.decimal sequence

def json (r : RunContext) : Value :=
  .object [("run_id", .string r.id), ("started_at", r.startedAt.json)]

def shape : Shape RunContext :=
  Shape.pure mk
    |>.seq (.required "run_id" .text)
    |>.seq (.required "started_at" Moment.decoder)

def decoder : Decoder RunContext :=
  shape.decoder "RunContext"

end RunContext

end BlocklistWatch
