import BlocklistWatch.Text.Ascii

/-!
# Written numbers

The decimal digits of a number are digits, do not begin with a zero unless the number is zero, and
have the number as their value; a hexadecimal digit has the value that it was written for.

* `decimalDigits_of_lt` and `decimalDigits_of_le` build the digits from the front.
* `digitsValue_decimalDigits` reads them back.
-/

namespace BlocklistWatch.Text

/-! ## Single digits -/

theorem isDigit_hexDigit : ∀ n < 10, isDigit (hexDigit n) = true := by
  decide

theorem digitValue_hexDigit : ∀ n < 10, digitValue (hexDigit n) = n := by
  decide

theorem hexValue?_hexDigit : ∀ n < 16, hexValue? (hexDigit n) = some n := by
  decide

theorem hexDigit_eq_zero : ∀ n < 10, hexDigit n = '0' → n = 0 := by
  decide

/-! ## Values of digits -/

theorem digitsValue_concat (cs : List Char) (c : Char) :
    digitsValue (cs ++ [c]) = 10 * digitsValue cs + digitValue c := by
  rw [digitsValue, List.foldl_append]
  rfl

theorem digitsValue_le_append (front back : List Char) :
    digitsValue front ≤ digitsValue (front ++ back) := by
  induction back generalizing front with
  | nil => exact Nat.le_of_eq (congrArg digitsValue (List.append_nil front).symm)
  | cons c back ih =>
    have hrest := ih (front ++ [c])
    rw [digitsValue_concat, List.append_assoc, List.singleton_append] at hrest
    omega

/-! ## Decimal digits -/

theorem digitsOnto_append (base n : Nat) (front back : List Char) :
    digitsOnto base n (front ++ back) = digitsOnto base n front ++ back := by
  induction n using Nat.strongRecOn generalizing front with
  | _ n ih =>
    by_cases hlast : n < base ∨ base < 2
    · have hdigit : ∀ rest, digitsOnto base n rest = hexDigit n :: rest := by
        intro rest
        rw [digitsOnto, dif_pos hlast]
      rw [hdigit, hdigit, List.cons_append]
    · have hdigits : ∀ rest,
          digitsOnto base n rest = digitsOnto base (n / base) (hexDigit (n % base) :: rest) := by
        intro rest
        rw [digitsOnto, dif_neg hlast]
      rw [hdigits, hdigits]
      have hless : n / base < n := Nat.div_lt_self (by omega) (by omega)
      exact ih (n / base) hless (hexDigit (n % base) :: front)

theorem decimalDigits_of_lt {n : Nat} (h : n < 10) : decimalDigits n = [hexDigit n] := by
  rw [decimalDigits, digitsOnto, dif_pos (Or.inl h)]

theorem decimalDigits_of_le {n : Nat} (h : 10 ≤ n) :
    decimalDigits n = decimalDigits (n / 10) ++ [hexDigit (n % 10)] := by
  have hmore : ¬ (n < 10 ∨ 10 < 2) := by omega
  rw [decimalDigits, digitsOnto, dif_neg hmore]
  exact digitsOnto_append 10 (n / 10) [] [hexDigit (n % 10)]

theorem decimalDigits_ne_nil (n : Nat) : decimalDigits n ≠ [] := by
  by_cases h : n < 10
  · rw [decimalDigits_of_lt h]
    exact List.cons_ne_nil _ _
  · rw [decimalDigits_of_le (by omega)]
    exact List.append_ne_nil_of_right_ne_nil _ (List.cons_ne_nil _ _)

theorem isDigit_of_mem_decimalDigits {n : Nat} {c : Char} (hc : c ∈ decimalDigits n) :
    isDigit c = true := by
  induction n using Nat.strongRecOn with
  | _ n ih =>
    by_cases h : n < 10
    · rw [decimalDigits_of_lt h, List.mem_singleton] at hc
      rw [hc]
      exact isDigit_hexDigit n h
    · rw [decimalDigits_of_le (by omega), List.mem_append, List.mem_singleton] at hc
      rcases hc with hc | hc
      · exact ih (n / 10) (by omega) hc
      · rw [hc]
        exact isDigit_hexDigit _ (Nat.mod_lt _ (by omega))

theorem digitsValue_decimalDigits (n : Nat) : digitsValue (decimalDigits n) = n := by
  induction n using Nat.strongRecOn with
  | _ n ih =>
    by_cases h : n < 10
    · have hdigit : digitsValue [hexDigit n] = digitValue (hexDigit n) := Nat.zero_add _
      rw [decimalDigits_of_lt h, hdigit, digitValue_hexDigit n h]
    · have hlast : n % 10 < 10 := Nat.mod_lt _ (by omega)
      rw [decimalDigits_of_le (by omega), digitsValue_concat, ih (n / 10) (by omega),
        digitValue_hexDigit _ hlast]
      omega

/-- A number other than zero has no zero in front. -/
theorem eq_zero_of_head?_decimalDigits {n : Nat} (h : (decimalDigits n).head? = some '0') :
    n = 0 := by
  induction n using Nat.strongRecOn with
  | _ n ih =>
    by_cases hlast : n < 10
    · rw [decimalDigits_of_lt hlast, List.head?_cons, Option.some.injEq] at h
      exact hexDigit_eq_zero n hlast h
    · obtain ⟨c, cs, hfront⟩ := List.exists_cons_of_ne_nil (decimalDigits_ne_nil (n / 10))
      rw [decimalDigits_of_le (by omega), hfront, List.cons_append, List.head?_cons] at h
      have hzero := ih (n / 10) (by omega) (by rw [hfront, List.head?_cons, h])
      omega

end BlocklistWatch.Text
