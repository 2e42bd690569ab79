import BlocklistWatch.Text.Ascii
import BlocklistWatch.Text.Parser
import BlocklistWatch.Time.Calendar
import BlocklistWatch.Toml.Value

/-!
# Numbers and points in time in TOML

* `moment` reads a date, a time of day, or both.
* `fraction` reads a fractional number, `integer` a whole one of 64 bits.
-/

namespace BlocklistWatch.Toml

open Text (Parser)

/-! ## Points in time -/

def fixedNumber (width low high : Nat) : Parser Nat := fun cs =>
  let digits := cs.take width
  let n := Text.digitsValue digits
  if digits.length = width ∧ digits.all Text.isDigit ∧ low ≤ n ∧ n ≤ high then
    some (n, cs.drop width)
  else none

def date : Parser Unit := fun cs => do
  let (year, cs) ← fixedNumber 4 0 9999 cs
  let (_, cs) ← Parser.exactly ['-'] cs
  let (month, cs) ← fixedNumber 2 1 12 cs
  let (_, cs) ← Parser.exactly ['-'] cs
  let (_, cs) ← fixedNumber 2 1 (Time.Date.daysInMonth year month) cs
  return ((), cs)

def secondFraction : Parser Unit
  | '.' :: cs =>
    match cs.span Text.isDigit with
    | ([], _) => none
    | (_, cs) => some ((), cs)
  | _ => none

def timeOfDay : Parser Unit := fun cs => do
  let (_, cs) ← fixedNumber 2 0 23 cs
  let (_, cs) ← Parser.exactly [':'] cs
  let (_, cs) ← fixedNumber 2 0 59 cs
  let (_, cs) ← Parser.exactly [':'] cs
  let (_, cs) ← fixedNumber 2 0 60 cs
  let (_, cs) ← Parser.optional secondFraction cs
  return ((), cs)

def offset : Parser Unit
  | [] => none
  | c :: cs =>
    if c = 'Z' ∨ c = 'z' then some ((), cs)
    else if c = '+' ∨ c = '-' then do
      let (_, cs) ← fixedNumber 2 0 23 cs
      let (_, cs) ← Parser.exactly [':'] cs
      let (_, cs) ← fixedNumber 2 0 59 cs
      return ((), cs)
    else none

def timeAfterDate : Parser Unit := fun cs => do
  let (_, cs) ← Parser.one (fun c => c == 'T' || c == 't' || c == ' ') cs
  let (_, cs) ← timeOfDay cs
  let (_, cs) ← Parser.optional offset cs
  return ((), cs)

/-- A date, a date and a time of day, or a time of day. -/
def moment : Parser Unit := fun cs =>
  match date cs with
  | some (_, cs) => (Parser.optional timeAfterDate cs).map fun (_, cs) => ((), cs)
  | none => timeOfDay cs

/-! ## Numbers -/

/-- A digit of a kind that may have an underscore in front of it. -/
def spacedDigit (kind : Char → Bool) : Parser Char
  | '_' :: cs => Parser.one kind cs
  | cs => Parser.one kind cs

def spacedDigits (kind : Char → Bool) : Parser (List Char) := fun cs => do
  let (first, cs) ← Parser.one kind cs
  let (more, cs) := Parser.many (spacedDigit kind) cs
  return (first :: more, cs)

def sign : List Char → Bool × List Char
  | '+' :: cs => (false, cs)
  | '-' :: cs => (true, cs)
  | cs => (false, cs)

def wholeDigits : Parser (List Char)
  | '0' :: cs => some (['0'], cs)
  | cs => spacedDigits Text.isDigit cs

def pointDigits : Parser (List Char)
  | '.' :: cs => spacedDigits Text.isDigit cs
  | _ => none

def exponent : Parser Int
  | [] => none
  | c :: cs =>
    if c = 'e' ∨ c = 'E' then do
      let (negative, cs) := sign cs
      let (digits, cs) ← spacedDigits Text.isDigit cs
      let n : Int := Text.digitsValue digits
      return (if negative then -n else n, cs)
    else none

/-- Half a step above the greatest double: from here on a number counts as infinite. -/
def infiniteFrom : Nat := Nat.pow 2 1024 - Nat.pow 2 970

def isInfinite (n : Nat) (e : Int) : Bool :=
  let digits := (Text.decimalDigits n).length
  if n = 0 then false
  else if 400 < digits + e then true
  else if 0 ≤ e then infiniteFrom ≤ n * Nat.pow 10 e.toNat
  else infiniteFrom * Nat.pow 10 (min e.natAbs digits) ≤ n

def decimalFraction : Parser Unit := fun cs => do
  let (negative, cs) := sign cs
  let (whole, cs) ← wholeDigits cs
  let (point, cs) ← Parser.optional pointDigits cs
  let (power, cs) ← Parser.optional exponent cs
  let digits := whole ++ point.getD []
  let e : Int := power.getD 0 - ((point.getD []).length : Int)
  if point.isNone ∧ power.isNone then none
  else if ¬ negative ∧ isInfinite (Text.digitsValue digits) e then none
  else some ((), cs)

def specialFraction : Parser Unit := fun cs =>
  let rest := (sign cs).2
  Parser.orElse (Parser.exactly ['i', 'n', 'f']) (Parser.exactly ['n', 'a', 'n']) rest

def fraction : Parser Unit :=
  Parser.orElse decimalFraction specialFraction

def baseValue (base : Nat) (digits : List Char) : Nat :=
  digits.foldl (fun n c => base * n + (Text.hexValue? c).getD 0) 0

def isDigitOf (base : Nat) (c : Char) : Bool :=
  match Text.hexValue? c with
  | some v => v < base
  | none => false

def signedWord? (n : Int) : Option Int :=
  if Int64.minValue.toInt ≤ n ∧ n ≤ Int64.maxValue.toInt then some n else none

def basedInteger (base : Nat) : Parser Int := fun cs => do
  let (digits, cs) ← spacedDigits (isDigitOf base) cs
  return (← signedWord? (baseValue base digits), cs)

/-- A whole number: decimal with or without a sign, or in base 16, 8 or 2. -/
def integer : Parser Int
  | '0' :: 'x' :: cs => basedInteger 16 cs
  | '0' :: 'o' :: cs => basedInteger 8 cs
  | '0' :: 'b' :: cs => basedInteger 2 cs
  | cs => do
    let (negative, cs) := sign cs
    let (digits, cs) ← wholeDigits cs
    let n : Int := Text.digitsValue digits
    return (← signedWord? (if negative then -n else n), cs)

/-- A number or a point in time, whichever the text can be read as first. -/
def numeric : Parser Value := fun cs =>
  match moment cs with
  | some (_, cs) => some (.moment, cs)
  | none =>
    match fraction cs with
    | some (_, cs) => some (.fraction, cs)
    | none => (integer cs).map fun (n, cs) => (.integer n, cs)

end BlocklistWatch.Toml
