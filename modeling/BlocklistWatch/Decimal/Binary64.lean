/-!
# Double-precision numbers

The non-negative finite numbers of the 64-bit binary floating-point format, as a whole number times
a power of two, and their arithmetic: the exact result, rounded to the nearest such number, to the
even one of two.

* `roundHalfEven` is the rounding rule; `roundHalfEven_bounds` says that it moves by at most a half.
* `Binary64.nearest?` rounds a ratio, unless it is too large.
* `Binary64.mul?` and `Binary64.div?` round the exact product and quotient, `Binary64.le` compares.
-/

namespace BlocklistWatch

/-- The whole number nearest to `num / den`, the even one of two. -/
def roundHalfEven (num den : Nat) : Nat :=
  let q := num / den
  let r := num % den
  if den < 2 * r ∨ (2 * r = den ∧ q % 2 = 1) then q + 1 else q

theorem roundHalfEven_bounds (num den : Nat) (h : 0 < den) :
    2 * num ≤ 2 * (roundHalfEven num den * den) + den ∧
      2 * (roundHalfEven num den * den) ≤ 2 * num + den := by
  have hd := Nat.div_add_mod num den
  have hm := Nat.mod_lt num h
  have hc : den * (num / den) = num / den * den := Nat.mul_comm _ _
  unfold roundHalfEven
  simp only
  split
  · next hr =>
    rw [Nat.add_mul]
    omega
  · next hr =>
    omega

/-- The number `mantissa · 2 ^ exponent`. -/
structure Binary64 where
  mantissa : Nat
  exponent : Int
deriving DecidableEq, Repr

namespace Binary64

def minExponent : Int := -1074

def maxExponent : Int := 971

def zero : Binary64 := ⟨0, minExponent⟩

instance : Inhabited Binary64 := ⟨zero⟩

def isZero (x : Binary64) : Bool :=
  x.mantissa == 0

def ratio (x : Binary64) : Nat × Nat :=
  if 0 ≤ x.exponent then (x.mantissa * Nat.pow 2 x.exponent.toNat, 1)
  else (x.mantissa, Nat.pow 2 (-x.exponent).toNat)

def half : Binary64 := ⟨Nat.pow 2 52, -53⟩

def le (x y : Binary64) : Bool :=
  decide (x.ratio.1 * y.ratio.2 ≤ y.ratio.1 * x.ratio.2)

/-- The ratio `num / den` in units of `2 ^ e`. -/
def inUnits (num den : Nat) (e : Int) : Nat × Nat :=
  if 0 ≤ e then (num, den * Nat.pow 2 e.toNat) else (num * Nat.pow 2 (-e).toNat, den)

/-- The exponent at which `num / den` has a mantissa of 53 bits, or the least exponent. -/
def exponentFor (num den : Nat) : Int :=
  let guess : Int := (num.log2 : Int) - (den.log2 : Int) - 52
  let (n, d) := inUnits num den guess
  max minExponent (if n / d < Nat.pow 2 52 then guess - 1 else guess)

/-- The number nearest to `num / den`; none if that is beyond the greatest. -/
def nearest? (num den : Nat) : Option Binary64 :=
  if num = 0 then some zero
  else
    let e := exponentFor num den
    let (n, d) := inUnits num den e
    let m := roundHalfEven n d
    let x : Binary64 := if m = Nat.pow 2 53 then ⟨Nat.pow 2 52, e + 1⟩ else ⟨m, e⟩
    if maxExponent < x.exponent then none else some x

def ofNat? (n : Nat) : Option Binary64 :=
  nearest? n 1

def mul? (x y : Binary64) : Option Binary64 :=
  nearest? (x.ratio.1 * y.ratio.1) (x.ratio.2 * y.ratio.2)

def div? (x y : Binary64) : Option Binary64 :=
  nearest? (x.ratio.1 * y.ratio.2) (x.ratio.2 * y.ratio.1)

/-- The quotient of two counts, each rounded before dividing; zero if the divisor is. -/
def quotient (num den : Nat) : Binary64 :=
  if den = 0 then zero
  else
    ((ofNat? num).bind fun n => (ofNat? den).bind fun d => div? n d).getD zero

end Binary64

end BlocklistWatch
