import BlocklistWatch.Json.Number
import BlocklistWatch.Proofs.Decimal.Shortest
import BlocklistWatch.Proofs.Json.NumberText
import BlocklistWatch.Proofs.Text.Digits

/-!
# Doubles in JSON texts

However a double is laid out, with the point at its place or in scientific notation, its characters
are those of a number by its parts.

* `FloatLayout.parts` are the parts of a written double, `FloatLayout.write_eq_chars` says that they
  are what is written.
* `FloatLayout.wellFormed_parts`: the parts stand for a number. In positional notation that is so
  because the shortest decimal of a double does not begin with a zero.
-/

namespace BlocklistWatch

open Json (NumberText)

namespace FloatLayout

/-! ## Parts -/

def scientificParts (digits : List Char) (exponent : Int) : NumberText :=
  ⟨false, digits.take 1, digits.drop 1,
    some (decide (exponent < 0), Text.decimalDigits exponent.natAbs)⟩

def positionalParts (digits : List Char) (exponent : Int) : NumberText :=
  if exponent < 0 then ⟨false, ['0'], List.replicate (exponent.natAbs - 1) '0' ++ digits, none⟩
  else
    let whole := exponent.toNat + 1
    let filled := digits ++ List.replicate (whole - digits.length) '0'
    let fraction := filled.drop whole
    ⟨false, filled.take whole, if fraction = [] then ['0'] else fraction, none⟩

/-- The parts of a double without its sign. -/
def magnitudeParts (layout : FloatLayout) (x : Binary64) : NumberText :=
  let shortest := Decimal.shortest x
  let digits := Text.decimalDigits shortest.digits
  let exponent : Int := shortest.exponent + digits.length - 1
  if x.isZero then ⟨false, ['0'], ['0'], none⟩
  else if layout.least ≤ exponent ∧ exponent ≤ layout.greatest then positionalParts digits exponent
  else scientificParts digits exponent

def parts (layout : FloatLayout) (negative : Bool) (x : Binary64) : NumberText :=
  { layout.magnitudeParts x with negative := negative }

section Digits

variable {digits : List Char} (hne : digits ≠ [])

include hne

theorem unsigned_scientificParts (plusSign : Bool) (exponent : Int) :
    (scientificParts digits exponent).unsigned plusSign =
      scientific plusSign digits exponent := by
  obtain ⟨c, cs, rfl⟩ := List.exists_cons_of_ne_nil hne
  unfold scientific
  cases cs <;> simp [scientificParts, NumberText.unsigned, NumberText.fractionChars,
    NumberText.exponentChars]

theorem unsigned_positionalParts (plusSign : Bool) (exponent : Int) :
    (positionalParts digits exponent).unsigned plusSign = positional digits exponent := by
  have hpoint : ∀ cs : List Char, cs ≠ [] → NumberText.fractionChars cs = '.' :: cs := by
    intro cs hcs
    obtain ⟨c, cs, rfl⟩ := List.exists_cons_of_ne_nil hcs
    rfl
  have hone : ∀ cs : List Char, (if cs = [] then ['0'] else cs) ≠ [] := by
    intro cs
    split
    · exact List.cons_ne_nil _ _
    · assumption
  unfold positionalParts positional NumberText.unsigned
  split
  · rw [hpoint _ (List.append_ne_nil_of_right_ne_nil _ hne), NumberText.exponentChars,
      List.append_nil]
    rfl
  · rw [hpoint _ (hone _), NumberText.exponentChars, List.append_nil]

/-! ## Well-formed parts -/

variable (hdigits : ∀ c ∈ digits, Text.isDigit c = true)

include hdigits

theorem wellFormed_scientificParts (exponent : Int) :
    (scientificParts digits exponent).WellFormed := by
  obtain ⟨c, cs, rfl⟩ := List.exists_cons_of_ne_nil hne
  obtain ⟨hc, hcs⟩ := List.forall_mem_cons.1 hdigits
  refine ⟨List.cons_ne_nil c [], List.forall_mem_singleton.2 hc, fun hzero => ?_, hcs, ?_⟩
  · rw [scientificParts, List.take_succ_cons, List.take_zero, Option.some.inj hzero]
  · intro e he
    rw [← Option.some.inj he]
    exact ⟨Text.decimalDigits_ne_nil _, fun _ => Text.isDigit_of_mem_decimalDigits⟩

/-- The digits in front of the point begin like all digits. -/
theorem wellFormed_positionalParts {exponent : Int}
    (hzero : digits.head? = some '0' → digits = ['0'] ∧ exponent = 0) :
    (positionalParts digits exponent).WellFormed := by
  have hfilled : ∀ n, ∀ c ∈ digits ++ List.replicate n '0', Text.isDigit c = true := by
    intro n c hc
    rcases List.mem_append.1 hc with hc | hc
    · exact hdigits c hc
    · rw [List.eq_of_mem_replicate hc]
      rfl
  obtain ⟨d, ds, rfl⟩ := List.exists_cons_of_ne_nil hne
  unfold positionalParts
  split
  · refine ⟨List.cons_ne_nil _ _, List.forall_mem_singleton.2 rfl, fun _ => rfl, fun c hc => ?_,
      fun _ he => nomatch he⟩
    rcases List.mem_append.1 hc with hc | hc
    · rw [List.eq_of_mem_replicate hc]
      rfl
    · exact hdigits c hc
  · refine ⟨List.cons_ne_nil _ _, fun c hc => hfilled _ c (List.mem_of_mem_take hc),
      fun hhead => ?_, fun c hc => ?_, fun _ he => nomatch he⟩
    · obtain ⟨hdigit, rfl⟩ := hzero hhead
      rw [hdigit]
      rfl
    · dsimp only at hc
      split at hc
      · rw [List.mem_singleton.1 hc]
        rfl
      · exact hfilled _ c (List.mem_of_mem_drop hc)

end Digits

/-! ## Written doubles -/

theorem unsigned_magnitudeParts (layout : FloatLayout) (x : Binary64) :
    (layout.magnitudeParts x).unsigned layout.plusSign = layout.write false x := by
  have hne := Text.decimalDigits_ne_nil (Decimal.shortest x).digits
  unfold magnitudeParts write
  simp only [Bool.false_eq_true, if_false]
  split
  · rfl
  · split
    · rw [unsigned_positionalParts hne]
    · rw [unsigned_scientificParts hne]

theorem write_eq_chars (layout : FloatLayout) (negative : Bool) (x : Binary64) :
    layout.write negative x = (layout.parts negative x).chars layout.plusSign := by
  have hunsigned := layout.unsigned_magnitudeParts x
  cases negative with
  | false => exact hunsigned.symm
  | true => exact congrArg ('-' :: ·) hunsigned.symm

theorem wellFormed_magnitudeParts (layout : FloatLayout) (x : Binary64) :
    (layout.magnitudeParts x).WellFormed := by
  have hne := Text.decimalDigits_ne_nil (Decimal.shortest x).digits
  have hdigits : ∀ c ∈ Text.decimalDigits (Decimal.shortest x).digits, Text.isDigit c = true :=
    fun _ => Text.isDigit_of_mem_decimalDigits
  unfold magnitudeParts
  simp only
  split
  · exact ⟨List.cons_ne_nil _ _, List.forall_mem_singleton.2 rfl, fun _ => rfl,
      List.forall_mem_singleton.2 rfl, fun _ he => nomatch he⟩
  · split
    · refine wellFormed_positionalParts hne hdigits fun hhead => ?_
      have hzero := Text.eq_zero_of_head?_decimalDigits hhead
      have hone : Text.decimalDigits 0 = ['0'] := Text.decimalDigits_of_lt (by decide)
      rw [(Decimal.shortest_cases x).resolve_left (absurd hzero), hone]
      exact ⟨rfl, rfl⟩
    · exact wellFormed_scientificParts hne hdigits _

theorem wellFormed_parts (layout : FloatLayout) (negative : Bool) (x : Binary64) :
    (layout.parts negative x).WellFormed := by
  obtain ⟨hne, hwhole, hzero, hfraction, hexponent⟩ := layout.wellFormed_magnitudeParts x
  exact ⟨hne, hwhole, hzero, hfraction, hexponent⟩

end FloatLayout

end BlocklistWatch
