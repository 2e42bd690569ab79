import BlocklistWatch.Decimal.Binary64
import BlocklistWatch.Decimal.Shortest
import BlocklistWatch.Text.Affix

/-!
# Texts that YAML takes for something else

A plain word in a YAML document is a string only if it does not look like null, a truth value or a
number. A number is a whole number in hexadecimal, octal or binary of at most 128 bits, or a decimal
that a double can hold; a run of digits with a zero in front counts as well, since readers disagree
on it.

* `isAmbiguous` tells such texts.
-/

namespace BlocklistWatch.Yaml

def isNull (cs : List Char) : Bool :=
  cs = [] ||
    ["~", "null", "Null", "NULL"].any fun word => word.toList = cs

def isTruthValue (cs : List Char) : Bool :=
  ["true", "True", "TRUE", "false", "False", "FALSE"].any fun word => word.toList = cs

def dropSign : List Char → List Char
  | '+' :: cs => cs
  | '-' :: cs => cs
  | cs => cs

def isPaddedDigits (cs : List Char) : Bool :=
  match dropSign cs with
  | '0' :: d :: ds => (d :: ds).all Text.isDigit
  | _ => false

def digitsIn? (base : Nat) (cs : List Char) : Option Nat :=
  if cs = [] then none
  else
    cs.foldl (fun n c => do
      let n ← n
      let v ← Text.hexValue? c
      if v < base then some (n * base + v) else none) (some 0)

def bases : List (List Char × Nat) :=
  [(['0', 'x'], 16), (['0', 'o'], 8), (['0', 'b'], 2)]

/-- Digits after the mark of a base, with a value of at most `max`. -/
def isMarkedDigits (max : Nat) (cs : List Char) : Bool :=
  bases.any fun (mark, base) =>
    match (Text.stripPrefix? mark cs).bind (digitsIn? base) with
    | some n => n ≤ max
    | none => false

/-- Whole numbers of at most 128 bits after the mark of a base; a sign may stand before the mark. -/
def isWhole (cs : List Char) : Bool :=
  match cs with
  | '-' :: rest => isMarkedDigits (Nat.pow 2 127) rest
  | rest => isMarkedDigits (Nat.pow 2 128 - 1) (dropSign rest)

/-- The digits of a decimal and the power of ten to multiply them with: digits with or without a
point among or beside them, then possibly an exponent. -/
def decimal? (cs : List Char) : Option (List Char × Int) :=
  let whole := cs.takeWhile Text.isDigit
  let rest := cs.dropWhile Text.isDigit
  let (fraction, rest) := match rest with
    | '.' :: rest => (rest.takeWhile Text.isDigit, rest.dropWhile Text.isDigit)
    | rest => ([], rest)
  let digits := whole ++ fraction
  if digits = [] then none
  else
    match rest with
    | [] => some (digits, -(fraction.length : Int))
    | c :: rest =>
      if c = 'e' ∨ c = 'E' then
        let negative := rest.head? = some '-'
        let exponent := dropSign rest
        if exponent ≠ [] ∧ exponent.all Text.isDigit then
          let e : Int := Text.digitsValue exponent
          some (digits, (if negative then -e else e) - fraction.length)
        else none
      else none

def isFinite (digits : List Char) (exponent : Int) : Bool :=
  let n := Text.digitsValue digits
  if n = 0 then true
  else
    let top := (Decimal.digitCount n : Int) + exponent
    if 310 < top then false
    else if top < 0 then true
    else
      let (num, den) := if 0 ≤ exponent then (n * Nat.pow 10 exponent.toNat, 1)
        else (n, Nat.pow 10 exponent.natAbs)
      (Binary64.nearest? num den).isSome

def isSpecialNumber (cs : List Char) : Bool :=
  [".inf", ".Inf", ".INF", "+.inf", "+.Inf", "+.INF", "-.inf", "-.Inf", "-.INF", ".nan", ".NaN",
    ".NAN"].any fun word => word.toList = cs

def isDecimal (cs : List Char) : Bool :=
  isSpecialNumber cs ||
    match decimal? (dropSign cs) with
    | some (digits, exponent) => isFinite digits exponent
    | none => false

/-- Texts that are no strings when they stand without quotes. -/
def isAmbiguous (cs : List Char) : Bool :=
  isNull cs || isTruthValue cs || isPaddedDigits cs || isWhole cs || isDecimal cs

end BlocklistWatch.Yaml
