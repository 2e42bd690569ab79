import BlocklistWatch.Decimal.Binary64
import BlocklistWatch.Text.Ascii

/-!
# Doubles in decimal

The shortest decimal that reads back as a given double, and decimals with a fixed number of places.

* `Decimal.shortest` tries 1, 2, … 17 digits: of each length the two decimals next to the number.
  The first length with a decimal that rounds to the number wins, of two decimals the nearer.
* `Decimal.fixed` rounds to a number of places, a half to the even digit.
-/

namespace BlocklistWatch

/-- The number `digits · 10 ^ exponent`. -/
structure Decimal where
  digits : Nat
  exponent : Int
deriving DecidableEq, Repr, Inhabited

namespace Decimal

def digitCount (n : Nat) : Nat :=
  (Text.decimalDigits n).length

/-- The power of ten of the first digit of `num / den`, which is not zero. -/
def leadingExponent (num den : Nat) : Int :=
  if den ≤ num then (digitCount (num / den) : Int) - 1
  else
    let k := digitCount (den / num)
    if den ≤ num * Nat.pow 10 (k - 1) then -((k : Int) - 1) else -(k : Int)

def inUnits (num den : Nat) (e : Int) : Nat × Nat :=
  if 0 ≤ e then (num, den * Nat.pow 10 e.toNat) else (num * Nat.pow 10 (-e).toNat, den)

/-- The decimals that round to a double: `low / den` to `high / den`, the ends included if
`closed`. -/
structure Cell where
  low : Nat
  high : Nat
  den : Nat
  closed : Bool
deriving Repr

def Cell.of (x : Binary64) : Cell :=
  let (num, den) := (⟨1, x.exponent⟩ : Binary64).ratio
  let below := if x.mantissa = Nat.pow 2 52 ∧ Binary64.minExponent < x.exponent then 1 else 2
  ⟨(4 * x.mantissa - below) * num, (4 * x.mantissa + 2) * num, 4 * den, x.mantissa % 2 = 0⟩

/-- Whether `digits · 10 ^ e` rounds to the double of the cell. -/
def Cell.holds (c : Cell) (digits : Nat) (e : Int) : Bool :=
  let (low, unit) := inUnits c.low c.den e
  let (high, _) := inUnits c.high c.den e
  if c.closed then low ≤ digits * unit && digits * unit ≤ high
  else low < digits * unit && digits * unit < high

/-- The decimal in units of `10 ^ e` next to `num / den` that lies in the cell, if one does. -/
def candidate? (c : Cell) (num den : Nat) (e : Int) : Option Decimal :=
  let (n, d) := inUnits num den e
  let low := n / d
  let rest := n % d
  match c.holds low e, c.holds (low + 1) e with
  | true, true => some ⟨if 2 * rest < d ∨ (2 * rest = d ∧ low % 2 = 0) then low else low + 1, e⟩
  | true, false => some ⟨low, e⟩
  | false, true => some ⟨low + 1, e⟩
  | false, false => none

/-- The decimal without trailing zeros in its digits, for digits below `10 ^ fuel`. -/
def stripZeros : Nat → Decimal → Decimal
  | 0, x => x
  | fuel + 1, x =>
    if x.digits ≠ 0 ∧ x.digits % 10 = 0 then stripZeros fuel ⟨x.digits / 10, x.exponent + 1⟩ else x

/-- The shortest decimal that reads back as the double, the nearest of those. -/
def shortest (x : Binary64) : Decimal :=
  if x.isZero then ⟨0, 0⟩
  else
    let (num, den) := x.ratio
    let lead := leadingExponent num den
    let cell := Cell.of x
    let found := (List.range 17).findSome? fun (k : Nat) => candidate? cell num den (lead - k)
    stripZeros 20 (found.getD ⟨roundHalfEven num den, 0⟩)

/-- A ratio with a fixed number of places, a half going to the even digit. -/
def fixed (places num den : Nat) : String :=
  let n := roundHalfEven (num * Nat.pow 10 places) den
  let whole := Text.decimal (n / Nat.pow 10 places)
  if places = 0 then whole else whole ++ "." ++ Text.decimalPadded places (n % Nat.pow 10 places)

end Decimal

end BlocklistWatch
