import BlocklistWatch.Decimal.Shortest

/-!
# Writing doubles

How the shortest decimal of a double is laid out: with a decimal point at its place while the
exponent is small, in scientific notation beyond.

* `FloatLayout` holds the decisions, `FloatLayout.write` follows them.
-/

namespace BlocklistWatch

/-- Where positional notation begins and ends, and whether a positive exponent has a sign. -/
structure FloatLayout where
  least : Int
  greatest : Int
  plusSign : Bool
deriving Repr

namespace FloatLayout

/-- A number in scientific notation: one digit, the others after a point, the exponent. -/
def scientific (plusSign : Bool) (digits : List Char) (exponent : Int) : List Char :=
  let mantissa := match digits with
    | [] => []
    | [d] => [d]
    | d :: ds => d :: '.' :: ds
  let sign := if exponent < 0 then ['-'] else if plusSign then ['+'] else []
  mantissa ++ 'e' :: sign ++ Text.decimalDigits exponent.natAbs

/-- A number in positional notation, with at least one digit on either side of the point. -/
def positional (digits : List Char) (exponent : Int) : List Char :=
  if exponent < 0 then
    '0' :: '.' :: List.replicate (exponent.natAbs - 1) '0' ++ digits
  else
    let whole := exponent.toNat + 1
    let filled := digits ++ List.replicate (whole - digits.length) '0'
    let fraction := filled.drop whole
    filled.take whole ++ '.' :: (if fraction = [] then ['0'] else fraction)

def write (layout : FloatLayout) (negative : Bool) (x : Binary64) : List Char :=
  let shortest := Decimal.shortest x
  let digits := Text.decimalDigits shortest.digits
  let exponent : Int := shortest.exponent + digits.length - 1
  let body :=
    if x.isZero then ['0', '.', '0']
    else if layout.least ≤ exponent ∧ exponent ≤ layout.greatest then positional digits exponent
    else scientific layout.plusSign digits exponent
  if negative then '-' :: body else body

end FloatLayout

end BlocklistWatch
