import Mathlib.Data.List.Induction
import BlocklistWatch.Proofs.Json.Doubles

/-!
# JSON numbers as they are written

Every number is written by its parts. The whole numbers that fit into 64 bits, with or without a
sign, are read back as they were.

* `Number.text` are the parts of a written number; `Number.chars_eq` says that they are what is
  written, `Number.wellFormed_text` that they stand for a number.
* `Number.IsWhole` and `NumberText.IsWhole` are the whole numbers of 64 bits, as values and as they
  are written.
* `Number.ofText?_text` reads such a number back; `Number.isWhole_of_ofText?` says that a number
  written in this form is read as one of them.
-/

namespace BlocklistWatch.Json

/-! ## Written numbers -/

namespace Number

/-- How a number is written. -/
def text : Number → NumberText
  | natural n => ⟨false, Text.decimalDigits n, [], none⟩
  | minus n => ⟨true, Text.decimalDigits n, [], none⟩
  | double negative x => layout.parts negative x

theorem chars_eq (n : Number) : n.chars = n.text.chars true := by
  cases n with
  | natural n => exact (List.append_nil _).symm
  | minus n => exact congrArg ('-' :: ·) (List.append_nil _).symm
  | double negative x => exact layout.write_eq_chars negative x

theorem wellFormed_text (n : Number) : n.text.WellFormed := by
  have hdigits : ∀ (negative : Bool) (n : Nat),
      NumberText.WellFormed ⟨negative, Text.decimalDigits n, [], none⟩ := by
    intro negative n
    refine ⟨Text.decimalDigits_ne_nil n, fun _ => Text.isDigit_of_mem_decimalDigits,
      fun hhead => ?_, fun _ hc => absurd hc List.not_mem_nil, fun _ he => nomatch he⟩
    rw [Text.eq_zero_of_head?_decimalDigits hhead]
    exact Text.decimalDigits_of_lt (by decide)
  cases n with
  | natural n => exact hdigits false n
  | minus n => exact hdigits true n
  | double negative x => exact layout.wellFormed_parts negative x

end Number

/-! ## Whole numbers -/

/-- A whole number of 64 bits. -/
def Number.IsWhole : Number → Prop
  | .natural n => n ≤ maxNatural
  | .minus n => 0 < n ∧ n ≤ maxNegative
  | .double _ _ => False

/-- A number is written as an integer from `-2^63` to `2^64 - 1`, with neither fraction nor
exponent, and not as minus zero. -/
structure NumberText.IsWhole (t : NumberText) : Prop where
  fraction : t.fraction = []
  exponent : t.exponent = none
  range : if t.negative then
      0 < Text.digitsValue t.whole ∧ Text.digitsValue t.whole ≤ Nat.pow 2 63
    else Text.digitsValue t.whole < Nat.pow 2 64

theorem foldl_wholeDigit {digits : List Char} (h : Text.digitsValue digits ≤ maxNatural) :
    digits.foldl Scaled.wholeDigit ⟨0, 0, false⟩ = ⟨Text.digitsValue digits, 0, false⟩ := by
  induction digits using List.reverseRecOn with
  | nil => rfl
  | append_singleton digits c ih =>
    have hfront := Text.digitsValue_le_append digits [c]
    have hnext : ¬ maxNatural < 10 * Text.digitsValue digits + Text.digitValue c := by
      rw [← Text.digitsValue_concat]
      exact Nat.not_lt.2 h
    rw [List.foldl_append, ih (Nat.le_trans hfront h), List.foldl_cons, List.foldl_nil,
      Text.digitsValue_concat, Scaled.wholeDigit]
    simp only [Bool.false_eq_true, false_or, if_neg hnext]

namespace Number

variable {n : Number} {t : NumberText}

theorem ofText?_of_isWhole (h : t.IsWhole) :
    ofText? t = some (if t.negative then .minus (Text.digitsValue t.whole)
      else .natural (Text.digitsValue t.whole)) := by
  obtain ⟨hfraction, hexponent, hrange⟩ := h
  have hmax : Text.digitsValue t.whole ≤ maxNatural := by
    have hbound : maxNatural = Nat.pow 2 64 - 1 := rfl
    have hless : Nat.pow 2 63 < Nat.pow 2 64 := by decide
    split at hrange
    · omega
    · omega
  unfold ofText?
  rw [foldl_wholeDigit hmax]
  simp only [hfraction, hexponent, and_self, if_true]
  cases hnegative : t.negative with
  | false => simp
  | true =>
    rw [hnegative, if_pos rfl] at hrange
    have hfits : Text.digitsValue t.whole ≠ 0 ∧ Text.digitsValue t.whole ≤ maxNegative :=
      ⟨by omega, hrange.2⟩
    simp [hfits]

theorem isWhole_of_ofText? (h : t.IsWhole) (hread : ofText? t = some n) : n.IsWhole := by
  rw [ofText?_of_isWhole h, Option.some.injEq] at hread
  have hrange := h.range
  rw [← hread]
  cases hnegative : t.negative with
  | false =>
    rw [hnegative, if_neg Bool.false_ne_true] at hrange
    rw [if_neg Bool.false_ne_true]
    exact Nat.le_sub_one_of_lt hrange
  | true =>
    rw [hnegative, if_pos rfl] at hrange
    rw [if_pos rfl]
    exact hrange

theorem isWhole_text (h : n.IsWhole) : n.text.IsWhole := by
  cases n with
  | natural n =>
    refine ⟨rfl, rfl, ?_⟩
    simp only [text, Bool.false_eq_true, if_false, Text.digitsValue_decimalDigits]
    exact Nat.lt_of_le_sub_one (by decide) h
  | minus n =>
    refine ⟨rfl, rfl, ?_⟩
    simp only [text, if_true, Text.digitsValue_decimalDigits]
    exact h
  | double => exact h.elim

/-- A whole number is read back from its digits. -/
theorem ofText?_text (h : n.IsWhole) : ofText? n.text = some n := by
  rw [ofText?_of_isWhole (isWhole_text h)]
  cases n with
  | natural n => simp [text, Text.digitsValue_decimalDigits]
  | minus n => simp [text, Text.digitsValue_decimalDigits]
  | double => exact h.elim

end Number

end BlocklistWatch.Json
