import BlocklistWatch.Time.Rfc3339

/-!
# Times as Jira writes them

Jira writes a time as 2024-01-15T10:30:00.000+0000; a time by RFC 3339 is understood as well.

* `Jira.parseTime` reads the one form, `Jira.parseStrict` the other, `Jira.time?` either.
-/

namespace BlocklistWatch.Jira

open Time

/-- The digits after the second, if there is a point with digits after it; those beyond the ninth are
ignored. -/
def fraction : Scan Nat := fun cs =>
  match cs with
  | '.' :: _ => nanoseconds cs
  | cs => .ok (0, cs)

/-- Reads a date, a time of day and an offset, the latter with or without a colon. -/
def parseTime (s : String) : Except TimeError Stamp := do
  let (year, cs) ← year s.toList
  let (_, cs) ← mark '-' cs
  let (month, cs) ← field 1 12 cs
  let (_, cs) ← mark '-' cs
  let (day, cs) ← field 1 31 cs
  let (_, cs) ← mark 'T' cs
  let (hour, cs) ← field 0 23 cs
  let (_, cs) ← mark ':' cs
  let (minute, cs) ← field 0 59 cs
  let (_, cs) ← mark ':' cs
  let (second, cs) ← field 0 60 cs
  let (nanos, cs) ← fraction cs
  let (offset, cs) ← signedOffset (cs.dropWhile Text.isBlank)
  if cs ≠ [] then throw .tooLong
  assemble ⟨year, month, day⟩ hour minute second nanos offset

/-! ## The strict form -/

/-- A number of exactly so many digits in the given range. -/
def digits (count least greatest : Nat) : Scan Nat := fun cs =>
  let run := cs.take count
  if run.length < count then .error .tooShort
  else if ¬ run.all Text.isDigit then .error .invalid
  else
    let n := Text.digitsValue run
    if least ≤ n ∧ n ≤ greatest then .ok (n, cs.drop count) else .error .outOfRange

def strictOffset : Scan Int := fun cs =>
  match cs with
  | 'Z' :: cs => .ok (0, cs)
  | 'z' :: cs => .ok (0, cs)
  | cs => do
    let (s, cs) ← sign cs
    let (hours, cs) ← twoDigits '9' cs
    let (_, cs) ← mark ':' cs
    let (minutes, cs) ← offsetMinutes false cs
    return (s * (hours * 3600 + minutes * 60 : Nat), cs)

/-- Reads a time by RFC 3339 to the letter. -/
def parseStrict (s : String) : Except TimeError Stamp := do
  let (year, cs) ← digits 4 0 9999 s.toList
  let (_, cs) ← mark '-' cs
  let (month, cs) ← digits 2 1 12 cs
  let (_, cs) ← mark '-' cs
  let (day, cs) ← digits 2 1 31 cs
  let (_, cs) ← dateEnd cs
  let (hour, cs) ← digits 2 0 23 cs
  let (_, cs) ← mark ':' cs
  let (minute, cs) ← digits 2 0 59 cs
  let (_, cs) ← mark ':' cs
  let (second, cs) ← digits 2 0 60 cs
  let (nanos, cs) ← fraction cs
  let (offset, cs) ← strictOffset cs
  if cs ≠ [] then throw .tooLong
  assemble ⟨year, month, day⟩ hour minute second nanos offset

def time? (s : String) : Option Stamp :=
  match parseTime s with
  | .ok stamp => some stamp
  | .error _ => (parseStrict s).toOption

end BlocklistWatch.Jira
