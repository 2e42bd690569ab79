import BlocklistWatch.Decimal.Layout

/-!
# JSON numbers

A number is kept as a whole number while it fits into 64 bits and as a double otherwise.

* `NumberText` is a number as it stands in a text; `Number.ofText?` is its value, none if it is too
  large for a double.
* `Number.chars` writes a number.
-/

namespace BlocklistWatch.Json

/-- A number: from 0 to `2^64 - 1`, from `-2^63` to -1 (kept without its sign), or a double. -/
inductive Number where
  | natural (n : Nat)
  | minus (n : Nat)
  | double (negative : Bool) (magnitude : Binary64)
deriving DecidableEq, Repr

/-- A number as written: sign, digits, digits after the point, and the exponent with its sign. -/
structure NumberText where
  negative : Bool
  whole : List Char
  fraction : List Char
  exponent : Option (Bool × List Char)
deriving DecidableEq, Repr, Inhabited

def maxNatural : Nat := UInt64.size - 1

/-- The magnitude of a negative whole number is at most this. -/
def maxNegative : Nat := Nat.pow 2 63

/-- Digits collected into at most 64 bits, and the power of ten by which that is too small. -/
structure Scaled where
  digits : Nat
  exponent : Int
  full : Bool
deriving Repr

/-- A digit in front of the point: once the 64 bits are full, it only counts as a power of ten. -/
def Scaled.wholeDigit (s : Scaled) (c : Char) : Scaled :=
  let next := 10 * s.digits + Text.digitValue c
  if s.full ∨ maxNatural < next then { s with exponent := s.exponent + 1, full := true }
  else { s with digits := next }

/-- The digits after the point, up to the first that no longer fits. -/
def Scaled.fractionDigits (s : Scaled) : List Char → Scaled
  | [] => s
  | c :: cs =>
    let next := 10 * s.digits + Text.digitValue c
    if maxNatural < next then s
    else Scaled.fractionDigits { s with digits := next, exponent := s.exponent - 1 } cs

def maxPower : Nat := 308

/-- A double times a power of ten, by one multiplication or by divisions of at most `10 ^ 308`,
each rounded; none if it becomes too large. Three divisions leave nothing of 64 bits. -/
def scale? : Nat → Binary64 → Int → Option Binary64
  | 0, _, _ => some .zero
  | steps + 1, x, e =>
    if e.natAbs ≤ maxPower then
      (Binary64.ofNat? (Nat.pow 10 e.natAbs)).bind fun p => if 0 ≤ e then x.mul? p else x.div? p
    else if x.isZero then some x
    else if 0 ≤ e then none
    else
      (Binary64.ofNat? (Nat.pow 10 maxPower)).bind fun p =>
        (x.div? p).bind fun y => scale? steps y (e + maxPower)

def exponentValue : Option (Bool × List Char) → Int
  | none => 0
  | some (negative, digits) =>
    if negative then -(Text.digitsValue digits : Int) else Text.digitsValue digits

namespace Number

def ofText? (t : NumberText) : Option Number :=
  let whole := t.whole.foldl Scaled.wholeDigit ⟨0, 0, false⟩
  if t.fraction = [] ∧ t.exponent = none ∧ whole.full = false then
    if ¬ t.negative then some (.natural whole.digits)
    else if whole.digits ≠ 0 ∧ whole.digits ≤ maxNegative then some (.minus whole.digits)
    else (Binary64.ofNat? whole.digits).map (.double true)
  else
    let all := whole.fractionDigits t.fraction
    (Binary64.ofNat? all.digits).bind fun x =>
      (scale? 4 x (all.exponent + exponentValue t.exponent)).map (.double t.negative)

/-- Doubles stand in positional notation from `10 ^ -5` to below `10 ^ 16`; a positive exponent has
a plus sign. -/
def layout : FloatLayout := ⟨-5, 15, true⟩

def chars : Number → List Char
  | natural n => Text.decimalDigits n
  | minus n => '-' :: Text.decimalDigits n
  | double negative x => layout.write negative x

end Number

end BlocklistWatch.Json
