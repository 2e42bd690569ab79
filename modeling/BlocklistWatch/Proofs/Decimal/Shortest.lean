import BlocklistWatch.Decimal.Shortest

/-!
# The digits of the shortest decimal

The decimals that round to a double other than zero are not zero themselves, so the shortest of them
does not begin with a zero. Only where none was found does the decimal come from rounding to a whole
number, and then zero is just zero.

* `Cell.digits_ne_zero` is about one candidate, `shortest_cases` about the result.
-/

namespace BlocklistWatch.Decimal

theorem inUnits_fst_pos {num : Nat} (h : 0 < num) (den : Nat) (e : Int) :
    0 < (inUnits num den e).1 := by
  unfold inUnits
  split
  · exact h
  · exact Nat.mul_pos h (Nat.pow_pos (by decide))

theorem Cell.digits_ne_zero {c : Cell} (hlow : 0 < c.low) {digits : Nat} {e : Int}
    (h : c.holds digits e = true) : digits ≠ 0 := by
  rintro rfl
  have hpos := inUnits_fst_pos hlow c.den e
  unfold holds at h
  simp only [Nat.zero_mul] at h
  split at h
  all_goals
    rw [Bool.and_eq_true, decide_eq_true_eq] at h
    omega

theorem Cell.low_pos {x : Binary64} (h : x.isZero = false) : 0 < (Cell.of x).low := by
  have hmantissa : x.mantissa ≠ 0 := by simpa [Binary64.isZero] using h
  have hunit : 0 < (⟨1, x.exponent⟩ : Binary64).ratio.1 := by
    unfold Binary64.ratio
    split
    · exact Nat.mul_pos Nat.one_pos (Nat.pow_pos (by decide))
    · exact Nat.one_pos
  refine Nat.mul_pos ?_ hunit
  split <;> omega

theorem digits_ne_zero_of_candidate? {c : Cell} (hlow : 0 < c.low) {num den : Nat} {e : Int}
    {x : Decimal} (h : candidate? c num den e = some x) : x.digits ≠ 0 := by
  unfold candidate? at h
  simp only at h
  split at h
  · next hbelow _ =>
    rw [← Option.some.inj h]
    dsimp only
    split
    · exact c.digits_ne_zero hlow hbelow
    · exact Nat.succ_ne_zero _
  · next hbelow _ =>
    rw [← Option.some.inj h]
    exact c.digits_ne_zero hlow hbelow
  · rw [← Option.some.inj h]
    exact Nat.succ_ne_zero _
  · exact nomatch h

theorem digits_stripZeros_ne_zero {x : Decimal} (h : x.digits ≠ 0) (fuel : Nat) :
    (stripZeros fuel x).digits ≠ 0 := by
  induction fuel generalizing x with
  | zero => exact h
  | succ fuel ih =>
    rw [stripZeros]
    split
    · exact ih (by dsimp only; omega)
    · exact h

theorem stripZeros_zero (fuel : Nat) (e : Int) : stripZeros fuel ⟨0, e⟩ = ⟨0, e⟩ := by
  cases fuel <;> rfl

theorem shortest_cases (x : Binary64) : (shortest x).digits ≠ 0 ∨ shortest x = ⟨0, 0⟩ := by
  unfold shortest
  cases hzero : x.isZero with
  | true => exact .inr rfl
  | false =>
    simp only [Bool.false_eq_true, if_false]
    cases hfound : (List.range 17).findSome? fun (k : Nat) => candidate? (Cell.of x) x.ratio.1
        x.ratio.2 (leadingExponent x.ratio.1 x.ratio.2 - k) with
    | some d =>
      obtain ⟨k, -, hk⟩ := List.exists_of_findSome?_eq_some hfound
      exact .inl (digits_stripZeros_ne_zero
        (digits_ne_zero_of_candidate? (Cell.low_pos hzero) hk) 20)
    | none =>
      rw [Option.getD_none]
      by_cases hrounded : roundHalfEven x.ratio.1 x.ratio.2 = 0
      · rw [hrounded]
        exact .inr (stripZeros_zero 20 0)
      · exact .inl (digits_stripZeros_ne_zero hrounded 20)

end BlocklistWatch.Decimal
