import BlocklistWatch.Text.Affix
import BlocklistWatch.Text.Blank
import BlocklistWatch.Time.Moment

/-!
# Reading RFC 3339

Dates with a time of day and an offset, read leniently: blanks may stand between the parts, a blank
or `t` between date and time, and `UTC` or `z` for the offset zero.

* `Stamp.parse` reads a text. Of several things that are wrong with a text the first is reported.
-/

namespace BlocklistWatch.Time

inductive TimeError where
  | tooShort
  | invalid
  | outOfRange
  | tooLong
  | impossible
deriving DecidableEq, Repr

def TimeError.message : TimeError → String
  | tooShort => "premature end of input"
  | invalid => "input contains invalid characters"
  | outOfRange => "input is out of range"
  | tooLong => "trailing input"
  | impossible => "no possible date and time matching input"

abbrev Scan (α : Type) := List Char → Except TimeError (α × List Char)

def maxNumber : Nat := Nat.pow 2 63 - 1

/-- A run of digits, at least one; no more than `width` if that is given. -/
def number (width : Option Nat) : Scan Nat := fun cs =>
  match cs with
  | [] => .error .tooShort
  | _ :: _ =>
    let run := match width with
      | some w => (cs.take w).takeWhile Text.isDigit
      | none => cs.takeWhile Text.isDigit
    if run = [] then .error .invalid
    else if maxNumber < Text.digitsValue run then .error .outOfRange
    else .ok (Text.digitsValue run, cs.drop run.length)

/-- A run of digits after blanks whose number is in the given range. -/
def field (least greatest : Nat) : Scan Nat := fun cs => do
  let (n, cs) ← number (some 2) (cs.dropWhile Text.isBlank)
  if least ≤ n ∧ n ≤ greatest then return (n, cs) else throw .outOfRange

def mark (c : Char) : Scan Unit := fun cs =>
  match cs with
  | [] => .error .tooShort
  | d :: cs => if d = c then .ok ((), cs) else .error .invalid

def spacedMark (c : Char) : Scan Unit := fun cs =>
  mark c (cs.dropWhile Text.isBlank)

def year : Scan Int := fun cs => do
  let cs := cs.dropWhile Text.isBlank
  let (y, cs) ← match cs with
    | '-' :: cs => do
      let (n, cs) ← number none cs
      pure (-(n : Int), cs)
    | '+' :: cs => do
      let (n, cs) ← number none cs
      pure ((n : Int), cs)
    | cs => do
      let (n, cs) ← number (some 4) cs
      pure ((n : Int), cs)
  if Int32.minValue.toInt ≤ y ∧ y ≤ Int32.maxValue.toInt then return (y, cs) else throw .outOfRange

/-- Nanoseconds after a point, if there is one; digits beyond the ninth are ignored. -/
def nanoseconds : Scan Nat := fun cs =>
  match cs with
  | '.' :: cs => do
    let (n, rest) ← number (some 9) cs
    let used := cs.length - rest.length
    return (n * Nat.pow 10 (9 - used), rest.dropWhile Text.isDigit)
  | cs => .ok (0, cs)

def twoDigits (greatest : Char) : Scan Nat := fun cs =>
  match cs with
  | [] => .error .tooShort
  | [c] => if c.utf8Size < 2 then .error .tooShort else .error .invalid
  | c :: d :: cs =>
    if Text.isDigit c ∧ Text.isDigit d then
      if c ≤ greatest then .ok (Text.digitsValue [c, d], cs) else .error .outOfRange
    else .error .invalid

/-- Minutes of an offset: none at the end of the text if they may be missing. -/
def offsetMinutes (optional : Bool) : Scan Nat := fun cs =>
  match cs with
  | [] => if optional then .ok (0, []) else .error .tooShort
  | cs => twoDigits '5' cs

def sign : Scan Int := fun cs =>
  match cs with
  | [] => .error .tooShort
  | c :: cs =>
    if c = '+' then .ok (1, cs)
    else if c = '-' ∨ c = '\u2212' then .ok (-1, cs)
    else .error .invalid

/-- An offset with a sign, hours and minutes, colons and blanks between them ignored. -/
def signedOffset : Scan Int := fun cs => do
  let (s, cs) ← sign cs
  let (hours, cs) ← twoDigits '9' cs
  let (minutes, cs) ← offsetMinutes false (cs.dropWhile fun c => c == ':' || Text.isBlank c)
  return (s * (hours * 3600 + minutes * 60 : Nat), cs)

def utcOffset : Scan Int := fun cs =>
  match Text.stripPrefix? ['u', 't', 'c'] ((cs.take 3).map Text.foldChar) with
  | some _ => .ok (0, cs.drop 3)
  | none =>
    match cs with
    | 'Z' :: cs => .ok (0, cs)
    | 'z' :: cs => .ok (0, cs)
    | cs => signedOffset cs

def dateEnd : Scan Unit := fun cs =>
  match cs with
  | [] => .error .tooShort
  | c :: cs => if c = 't' ∨ c = 'T' ∨ c = ' ' then .ok ((), cs) else .error .invalid

/-- The moment of a date, a time of day and an offset; second 60 is the leap second after 59. -/
def assemble (date : Date) (hour minute second nanos : Nat) (offset : Int) :
    Except TimeError Stamp :=
  if ¬ date.isValid then .error .outOfRange
  else if ¬ (-86400 < offset ∧ offset < 86400) then .error .outOfRange
  else
    let leap := if second = 60 then 1 else 0
    let seconds : Int :=
      date.toDays * 86400 + (hour * 3600 + minute * 60 + (second - leap) : Nat) - offset
    let year := (Date.ofDays (seconds / 86400)).year
    if Date.minYear ≤ year ∧ year ≤ Date.maxYear then
      .ok ⟨⟨seconds, nanos + leap * nanosPerSecond⟩, offset⟩
    else .error .impossible

end BlocklistWatch.Time

namespace BlocklistWatch

open Time in
def Stamp.parse (s : String) : Except TimeError Stamp := do
  let (year, cs) ← year s.toList
  let (_, cs) ← spacedMark '-' cs
  let (month, cs) ← field 1 12 cs
  let (_, cs) ← spacedMark '-' cs
  let (day, cs) ← field 1 31 cs
  let (_, cs) ← dateEnd cs
  let (hour, cs) ← field 0 23 cs
  let (_, cs) ← spacedMark ':' cs
  let (minute, cs) ← field 0 59 cs
  let (_, cs) ← spacedMark ':' cs
  let (second, cs) ← field 0 60 cs
  let (nanos, cs) ← nanoseconds cs
  let (offset, cs) ← utcOffset (cs.dropWhile Text.isBlank)
  if cs.dropWhile Text.isBlank ≠ [] then throw .tooLong
  assemble ⟨year, month, day⟩ hour minute second nanos offset

end BlocklistWatch
