import BlocklistWatch.Decimal.Binary64
import Mathlib.Algebra.Order.Field.Power
import Mathlib.Data.Nat.Cast.Order.Field
import Mathlib.Data.Rat.Cast.Order
import Mathlib.Tactic.Linarith
import Mathlib.Tactic.NormNum
import Mathlib.Tactic.Ring

/-!
# What rounding keeps

A ratio of two counts is rounded three times before it is compared: each count and the quotient.
Counts of up to 53 bits are exact, and two such counts whose quotient is below one half are far
enough below it that no rounding takes the quotient there.

* `Binary64.value` is the number as a fraction.
* `Binary64.two_zpow_le_of_exponentFor` says that a rounded ratio has all its 53 bits.
* `Binary64.half_le_quotient_iff` compares the quotient of two counts with one half.
-/

namespace BlocklistWatch

theorem abs_roundHalfEven_sub_le (num : Nat) {den : Nat} (h : 0 < den) :
    |(roundHalfEven num den : ℚ) - num / den| ≤ 1 / 2 := by
  obtain ⟨hlow, hhigh⟩ := roundHalfEven_bounds num den h
  have hden : (0 : ℚ) < den := Nat.cast_pos.2 h
  have hlow' : 2 * (num : ℚ) ≤ 2 * (roundHalfEven num den * den) + den := by exact_mod_cast hlow
  have hhigh' : 2 * (roundHalfEven num den * den : ℚ) ≤ 2 * num + den := by exact_mod_cast hhigh
  have hnum : (num : ℚ) / den * den = num := div_mul_cancel₀ _ hden.ne'
  rw [abs_le]
  constructor <;> nlinarith

namespace Binary64

/-- The number as a fraction. -/
def value (x : Binary64) : ℚ :=
  x.mantissa * 2 ^ x.exponent

theorem ratio_snd_pos (x : Binary64) : 0 < x.ratio.2 := by
  unfold ratio
  split
  · exact Nat.one_pos
  · exact Nat.pow_pos Nat.two_pos

theorem ratio_div (x : Binary64) : (x.ratio.1 : ℚ) / x.ratio.2 = x.value := by
  unfold ratio value
  split
  · next h =>
    obtain ⟨k, hk⟩ := Int.eq_ofNat_of_zero_le h
    simp [hk]
  · next h =>
    obtain ⟨k, hk⟩ := Int.eq_ofNat_of_zero_le (by omega : 0 ≤ -x.exponent)
    have hx : x.exponent = -(k : ℤ) := by omega
    simp [hx, div_eq_mul_inv]

theorem le_iff {x y : Binary64} : x.le y = true ↔ x.value ≤ y.value := by
  have hx : (0 : ℚ) < x.ratio.2 := Nat.cast_pos.2 x.ratio_snd_pos
  have hy : (0 : ℚ) < y.ratio.2 := Nat.cast_pos.2 y.ratio_snd_pos
  rw [le, decide_eq_true_iff, ← ratio_div, ← ratio_div, div_le_div_iff₀ hx hy]
  norm_cast

theorem value_half : half.value = 1 / 2 := by
  norm_num [half, value]

theorem value_zero : zero.value = 0 := by
  simp [zero, value]

variable {num den : Nat} {x : Binary64}

theorem inUnits_snd_pos (hden : 0 < den) (e : ℤ) : 0 < (inUnits num den e).2 := by
  unfold inUnits
  split
  · exact Nat.mul_pos hden (Nat.pow_pos Nat.two_pos)
  · exact hden

theorem inUnits_div (num den : Nat) (e : ℤ) :
    ((inUnits num den e).1 : ℚ) / (inUnits num den e).2 = num / den / 2 ^ e := by
  unfold inUnits
  split
  · next h =>
    obtain ⟨k, rfl⟩ := Int.eq_ofNat_of_zero_le h
    simp [div_div]
  · next h =>
    obtain ⟨k, hk⟩ := Int.eq_ofNat_of_zero_le (by omega : 0 ≤ -e)
    have he : e = -(k : ℤ) := by omega
    simp [he, div_mul_eq_mul_div]

/-- The exponent for a ratio is such that 53 bits go into the mantissa. -/
theorem two_zpow_le_of_exponentFor (hnum : num ≠ 0) (hden : 0 < den)
    (h : minExponent < exponentFor num den) :
    (2 : ℚ) ^ (52 + exponentFor num den) ≤ num / den := by
  have hdenQ : (0 : ℚ) < den := Nat.cast_pos.2 hden
  unfold exponentFor at h ⊢
  dsimp only at h ⊢
  generalize hguess : (num.log2 : ℤ) - den.log2 - 52 = guess at h ⊢
  by_cases hless : (inUnits num den guess).1 / (inUnits num den guess).2 < Nat.pow 2 52
  · rw [if_pos hless] at h ⊢
    rw [max_eq_right (by omega)]
    have hnum2 : (2 : ℚ) ^ num.log2 ≤ num := by exact_mod_cast Nat.log2_self_le hnum
    have hden2 : (den : ℚ) < 2 ^ (den.log2 + 1) := by exact_mod_cast Nat.lt_log2_self
    have hexp : 52 + (guess - 1) = (num.log2 : ℤ) - (den.log2 + 1 : ℕ) := by push_cast; omega
    rw [hexp, zpow_sub₀ two_ne_zero, zpow_natCast, zpow_natCast]
    exact div_le_div₀ (Nat.cast_nonneg _) hnum2 hdenQ hden2.le
  · rw [if_neg hless] at h ⊢
    rw [max_eq_right (by omega)]
    have hunits : (2 : ℚ) ^ 52 ≤ num / den / 2 ^ guess := by
      rw [← inUnits_div]
      refine le_trans ?_ Nat.cast_div_le
      exact_mod_cast not_lt.1 hless
    rw [zpow_add₀ two_ne_zero]
    exact (le_div_iff₀ (zpow_pos two_pos _)).1 hunits

theorem lt_of_two_zpow_lt {m n : ℤ} {q : ℚ} (hm : 2 ^ m ≤ q) (hn : q < 2 ^ n) : m < n :=
  (zpow_lt_zpow_iff_right₀ one_lt_two).1 (hm.trans_lt hn)

/-- A ratio that is small enough is rounded to a whole number of units, as near as can be. -/
theorem exists_nearest? (hnum : num ≠ 0) (hden : 0 < den)
    (hsmall : (num : ℚ) / den < 2 ^ (1000 : ℤ)) :
    ∃ (x : Binary64) (m : ℕ), nearest? num den = some x ∧
      x.value = m * 2 ^ exponentFor num den ∧
      |(m : ℚ) - num / den / 2 ^ exponentFor num den| ≤ 1 / 2 := by
  have hexp : exponentFor num den ≤ 970 := by
    by_contra hlarge
    have hfull := two_zpow_le_of_exponentFor hnum hden
      (by rw [minExponent]; omega : minExponent < exponentFor num den)
    have := lt_of_two_zpow_lt hfull hsmall
    omega
  rw [nearest?, if_neg hnum, ← inUnits_div]
  dsimp only
  refine ⟨_, _, if_neg ?_, ?_, abs_roundHalfEven_sub_le _ (inUnits_snd_pos hden _)⟩
  · rw [maxExponent]
    split <;> dsimp only <;> omega
  · split
    · next hcarry =>
      rw [hcarry, value, zpow_add₀ two_ne_zero]
      norm_num
      ring
    · rfl

/-- A count of up to 53 bits is a number of its own: its exponent is not positive, so it is a whole
number of units. -/
theorem exists_ofNat? {n : Nat} (h : n ≤ Nat.pow 2 53) :
    ∃ x, ofNat? n = some x ∧ x.value = n := by
  rcases Nat.eq_zero_or_pos n with rfl | hpos
  · exact ⟨zero, rfl, by rw [value_zero, Nat.cast_zero]⟩
  rcases h.eq_or_lt with rfl | hlt
  · exact ⟨⟨Nat.pow 2 52, 1⟩, by decide, by norm_num [value]⟩
  have hltQ : (n : ℚ) / (1 : ℕ) < 2 ^ (53 : ℤ) := by
    rw [Nat.cast_one, div_one]
    exact_mod_cast hlt
  obtain ⟨k, hk⟩ : ∃ k : ℕ, exponentFor n 1 = -k := by
    refine Int.exists_eq_neg_ofNat (not_lt.1 fun hpositive => ?_)
    have hfull := two_zpow_le_of_exponentFor hpos.ne' Nat.one_pos
      (by rw [minExponent]; omega : minExponent < exponentFor n 1)
    have := lt_of_two_zpow_lt hfull hltQ
    omega
  obtain ⟨x, m, hx, hvalue, hm⟩ := exists_nearest? hpos.ne' Nat.one_pos
    (hltQ.trans (zpow_lt_zpow_right₀ one_lt_two (by decide)))
  rw [hk, Nat.cast_one, div_one, zpow_neg, zpow_natCast, div_inv_eq_mul] at hm
  rw [hk, zpow_neg, zpow_natCast] at hvalue
  have hexact : m = n * 2 ^ k := by
    have hclose : |(m : ℤ) - (n * 2 ^ k : ℕ)| < 1 := by
      have : |((m : ℤ) : ℚ) - ((n * 2 ^ k : ℕ) : ℤ)| < 1 := by
        push_cast
        linarith
      exact_mod_cast this
    rw [Int.abs_lt_one_iff] at hclose
    omega
  refine ⟨x, hx, ?_⟩
  rw [hvalue, hexact, Nat.cast_mul, Nat.cast_pow, Nat.cast_ofNat, mul_assoc,
    mul_inv_cancel₀ (by positivity), mul_one]

section Half

variable {m : ℕ} {e : ℤ} {q : ℚ}

/-- One half is a whole number of units if they are small enough. -/
theorem exists_half_eq (he : e ≤ -1) : ∃ k : ℕ, (1 / 2 : ℚ) = k * 2 ^ e := by
  obtain ⟨k, hk⟩ := Int.eq_ofNat_of_zero_le (by omega : 0 ≤ -1 - e)
  have hsum : (k : ℤ) + e = -1 := by omega
  refine ⟨2 ^ k, ?_⟩
  rw [Nat.cast_pow, Nat.cast_ofNat, ← zpow_natCast, ← zpow_add₀ two_ne_zero, hsum]
  norm_num

/-- What is one half or more is not rounded below one half. -/
theorem half_le_rounded (hm : |(m : ℚ) - q / 2 ^ e| ≤ 1 / 2) (hfull : 0 ≤ e → 2 ^ (52 + e) ≤ q)
    (hq : 1 / 2 ≤ q) : 1 / 2 ≤ m * (2 : ℚ) ^ e := by
  have hunit : (0 : ℚ) < 2 ^ e := zpow_pos two_pos e
  have hlow := (abs_le.1 hm).1
  rcases lt_or_ge e 0 with he | he
  · obtain ⟨k, hk⟩ := exists_half_eq (by omega : e ≤ -1)
    have hkq : (k : ℚ) ≤ q / 2 ^ e := by rwa [le_div_iff₀ hunit, ← hk]
    have hkm : (k : ℚ) < m + 1 := by linarith
    have hkm' : k ≤ m := Nat.lt_succ_iff.1 (by exact_mod_cast hkm)
    rw [hk]
    exact mul_le_mul_of_nonneg_right (Nat.cast_le.2 hkm') hunit.le
  · have hunits : (2 : ℚ) ^ 52 ≤ q / 2 ^ e := by
      rw [le_div_iff₀ hunit]
      have hfull := hfull he
      rwa [zpow_add₀ two_ne_zero] at hfull
    have hm1 : (1 : ℚ) ≤ m := by
      norm_num at hunits
      linarith
    have hone : (1 : ℚ) ≤ 2 ^ e := one_le_zpow₀ one_le_two he
    nlinarith

/-- What is below one half by a unit of a number there is not rounded to one half. -/
theorem rounded_lt_half (hm : |(m : ℚ) - q / 2 ^ e| ≤ 1 / 2) (hfull : -54 < e → 2 ^ (52 + e) ≤ q)
    (hq : q ≤ 1 / 2 - 2 ^ (-54 : ℤ)) : m * (2 : ℚ) ^ e < 1 / 2 := by
  have hunit : (0 : ℚ) < 2 ^ e := zpow_pos two_pos e
  have hgap : (0 : ℚ) < 2 ^ (-54 : ℤ) := zpow_pos two_pos _
  have he : e ≤ -54 := by
    refine not_lt.1 fun he => ?_
    have hbelow : q < 2 ^ (-1 : ℤ) := by
      norm_num at hq ⊢
      linarith
    have := lt_of_two_zpow_lt (hfull he) hbelow
    omega
  obtain ⟨k, hk⟩ := exists_half_eq (by omega : e ≤ -1)
  have hle : (2 : ℚ) ^ e ≤ 2 ^ (-54 : ℤ) := zpow_le_zpow_right₀ one_le_two he
  have hkq : q / 2 ^ e ≤ k - 1 := by
    rw [div_le_iff₀ hunit, sub_mul, ← hk, one_mul]
    exact hq.trans (sub_le_sub_left hle _)
  have hmk : (m : ℚ) < k := by
    have hhigh := (abs_le.1 hm).2
    linarith
  rw [hk]
  exact mul_lt_mul_of_pos_right hmk hunit

end Half

theorem quotient_zero_left (b : Nat) : quotient 0 b = zero := by
  unfold quotient
  split
  · rfl
  · cases ofNat? b with
    | none => rfl
    | some d =>
      have hnum : (zero.ratio.1 * d.ratio.2) = 0 := Nat.zero_mul _
      have hzero : div? zero d = some zero := by rw [div?, nearest?, if_pos hnum]
      exact congrArg (·.getD zero) hzero

theorem ratio_fst_ne_zero {x : Binary64} (h : x.value ≠ 0) : x.ratio.1 ≠ 0 := by
  intro hzero
  rw [← ratio_div, hzero, Nat.cast_zero, zero_div] at h
  exact h rfl

/-- The quotient of two counts is their ratio, rounded once. -/
theorem exists_quotient {a b : Nat} (ha : a ≤ Nat.pow 2 53) (hb : b ≤ Nat.pow 2 53) (hapos : 0 < a)
    (hbpos : 0 < b) : ∃ (m : ℕ) (e : ℤ), (quotient a b).value = m * 2 ^ e ∧
      |(m : ℚ) - a / b / 2 ^ e| ≤ 1 / 2 ∧ (minExponent < e → 2 ^ (52 + e) ≤ (a : ℚ) / b) := by
  have haQ : (0 : ℚ) < a := Nat.cast_pos.2 hapos
  have hbQ : (0 : ℚ) < b := Nat.cast_pos.2 hbpos
  obtain ⟨x, hx, hvalueX⟩ := exists_ofNat? ha
  obtain ⟨y, hy, hvalueY⟩ := exists_ofNat? hb
  have hnum : x.ratio.1 * y.ratio.2 ≠ 0 :=
    Nat.mul_ne_zero (ratio_fst_ne_zero (hvalueX ▸ haQ.ne')) y.ratio_snd_pos.ne'
  have hden : 0 < x.ratio.2 * y.ratio.1 :=
    Nat.mul_pos x.ratio_snd_pos (Nat.pos_of_ne_zero (ratio_fst_ne_zero (hvalueY ▸ hbQ.ne')))
  have hratio : ((x.ratio.1 * y.ratio.2 : ℕ) : ℚ) / (x.ratio.2 * y.ratio.1 : ℕ) = a / b := by
    rw [← hvalueX, ← hvalueY, ← ratio_div, ← ratio_div, Nat.cast_mul, Nat.cast_mul,
      div_div_div_eq]
  have hsmall : (a : ℚ) / b < 2 ^ (1000 : ℤ) := by
    refine lt_of_le_of_lt ?_ (zpow_lt_zpow_right₀ one_lt_two (by decide : (53 : ℤ) < 1000))
    refine (div_le_self haQ.le (by exact_mod_cast hbpos)).trans ?_
    exact_mod_cast ha
  obtain ⟨z, m, hz, hvalue, hm⟩ := exists_nearest? hnum hden (hratio ▸ hsmall)
  have hquotient : quotient a b = z := by
    rw [quotient, if_neg hbpos.ne', hx, hy]
    exact congrArg (·.getD zero) hz
  exact ⟨m, _, hquotient ▸ hvalue, hratio ▸ hm, hratio ▸ two_zpow_le_of_exponentFor hnum hden⟩

theorem half_le_quotient_zero_left (b : Nat) : half.le (quotient 0 b) = false := by
  rw [Bool.eq_false_iff, ne_eq, le_iff, quotient_zero_left, value_half, value_zero]
  norm_num

/-- The quotient of two counts of up to 53 bits is at least one half exactly if twice the first is
at least the second. -/
theorem half_le_quotient_iff {a b : Nat} (ha : a ≤ Nat.pow 2 53) (hb : b ≤ Nat.pow 2 53) :
    half.le (quotient a b) = true ↔ 0 < b ∧ b ≤ 2 * a := by
  rw [le_iff, value_half]
  rcases Nat.eq_zero_or_pos b with rfl | hbpos
  · have hzero : quotient a 0 = zero := rfl
    rw [hzero, value_zero]
    exact iff_of_false (by norm_num) fun h => absurd h.1 (lt_irrefl 0)
  rw [and_iff_right hbpos]
  rcases Nat.eq_zero_or_pos a with rfl | hapos
  · rw [quotient_zero_left, value_zero]
    exact iff_of_false (by norm_num) (by omega)
  obtain ⟨m, e, hvalue, hm, hfull⟩ := exists_quotient ha hb hapos hbpos
  have hbQ : (0 : ℚ) < b := Nat.cast_pos.2 hbpos
  rw [hvalue]
  constructor
  · intro h
    by_contra hless
    have hless' : 2 * (a : ℚ) + 1 ≤ b := by exact_mod_cast (by omega : 2 * a + 1 ≤ b)
    have hunit : (2 : ℚ) ^ (-54 : ℤ) * b ≤ 1 / 2 := by
      have hbound : (b : ℚ) ≤ 2 ^ 53 := by exact_mod_cast hb
      rw [zpow_neg, inv_mul_le_iff₀ (zpow_pos two_pos _)]
      exact hbound.trans (by norm_num)
    have hgap : (a : ℚ) / b ≤ 1 / 2 - 2 ^ (-54 : ℤ) := by
      rw [div_le_iff₀ hbQ, sub_mul]
      linarith
    have hbelow : (m : ℚ) * 2 ^ e < 1 / 2 :=
      rounded_lt_half hm (fun he => hfull (by rw [minExponent]; omega)) hgap
    exact absurd h (not_le.2 hbelow)
  · intro h
    have hhalf : (1 : ℚ) / 2 ≤ a / b := by
      rw [div_le_div_iff₀ two_pos hbQ]
      exact_mod_cast (by omega : 1 * b ≤ a * 2)
    exact half_le_rounded hm (fun he => hfull (by rw [minExponent]; omega)) hhalf

end Binary64

end BlocklistWatch
