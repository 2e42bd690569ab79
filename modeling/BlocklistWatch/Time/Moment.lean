import BlocklistWatch.Text.Ascii
import BlocklistWatch.Time.Calendar

/-!
# Moments

Points in time to the nanosecond, and the same with the offset from UTC under which they were
written.

* `Moment` is a point in time, `Stamp` a point in time with an offset.
* `Stamp.text` writes a stamp by RFC 3339 with as many digits after the second as it needs,
  `Moment.text` a moment in UTC, `Moment.textSeconds` the same in whole seconds.
-/

namespace BlocklistWatch

def Time.nanosPerSecond : Nat := 1000000000

/-- Seconds from the beginning of 1970 in UTC and nanoseconds; a leap second has a second's worth of
the latter or more. -/
structure Moment where
  seconds : Int
  nanos : Nat
deriving DecidableEq, Repr, Inhabited

/-- A moment written under an offset from UTC, in seconds to the east. -/
structure Stamp where
  moment : Moment
  offset : Int
deriving DecidableEq, Repr, Inhabited

namespace Moment

def before (a b : Moment) : Bool :=
  a.seconds < b.seconds || (a.seconds == b.seconds && a.nanos < b.nanos)

end Moment

namespace Time

/-- A year: four digits from 0 to 9999, otherwise a sign and at least four. -/
def yearText (year : Int) : String :=
  if 0 ≤ year ∧ year ≤ 9999 then Text.decimalPadded 4 year.toNat
  else (if year < 0 then "-" else "+") ++ Text.decimalPadded 4 year.natAbs

def dateTimeText (m : Moment) (offset : Int) : String :=
  let civil := m.seconds + offset
  let date := Date.ofDays (civil / 86400)
  let second := (civil % 86400).toNat
  let leap := if nanosPerSecond ≤ m.nanos then 1 else 0
  yearText date.year ++ "-" ++ Text.decimalPadded 2 date.month ++ "-" ++
    Text.decimalPadded 2 date.day ++ "T" ++ Text.decimalPadded 2 (second / 3600) ++ ":" ++
    Text.decimalPadded 2 (second / 60 % 60) ++ ":" ++ Text.decimalPadded 2 (second % 60 + leap)

/-- The digits after the second: none, three, six or nine, as many as are needed. -/
def fractionText (nanos : Nat) : String :=
  let n := nanos % nanosPerSecond
  if n = 0 then ""
  else if n % 1000000 = 0 then "." ++ Text.decimalPadded 3 (n / 1000000)
  else if n % 1000 = 0 then "." ++ Text.decimalPadded 6 (n / 1000)
  else "." ++ Text.decimalPadded 9 n

def offsetDigits (offset : Int) : String :=
  let minutes := (offset.natAbs + 30) / 60
  (if offset < 0 then "-" else "+") ++ Text.decimalPadded 2 (minutes / 60) ++ ":" ++
    Text.decimalPadded 2 (minutes % 60)

end Time

def Stamp.text (s : Stamp) : String :=
  Time.dateTimeText s.moment s.offset ++ Time.fractionText s.moment.nanos ++
    (if s.offset = 0 then "Z" else Time.offsetDigits s.offset)

def Moment.text (m : Moment) : String :=
  Stamp.text ⟨m, 0⟩

def Moment.textSeconds (m : Moment) : String :=
  Time.dateTimeText m 0 ++ "Z"

end BlocklistWatch
