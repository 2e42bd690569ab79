import BlocklistWatch.Json.Token

/-!
# Numbers in JSON texts

A number is written by its parts: a sign, digits, more digits after a point, and an exponent. Each
part ends where the next begins, so the parts are found again in any text that does not go on with
something that could belong to a number.

* `NumberText.chars` writes a number by its parts, `NumberText.unsigned` leaves the sign out.
* `NumberText.WellFormed` holds of parts that stand for a number.
* `scanNumber_unsigned` finds the parts of such a number in a text.
-/

namespace BlocklistWatch.Json

/-! ## Written parts -/

namespace NumberText

def fractionChars : List Char → List Char
  | [] => []
  | c :: cs => '.' :: c :: cs

/-- A positive exponent has a plus sign or none. -/
def exponentChars (plusSign : Bool) : Option (Bool × List Char) → List Char
  | none => []
  | some (negative, digits) =>
    'e' :: (if negative then ['-'] else if plusSign then ['+'] else []) ++ digits

/-- The characters of a number after its sign. -/
def unsigned (plusSign : Bool) (t : NumberText) : List Char :=
  t.whole ++ (fractionChars t.fraction ++ exponentChars plusSign t.exponent)

def chars (plusSign : Bool) (t : NumberText) : List Char :=
  if t.negative then '-' :: t.unsigned plusSign else t.unsigned plusSign

/-- The parts stand for a number: there are digits in front of the point, without a zero in front of
others, and an exponent has digits. -/
structure WellFormed (t : NumberText) : Prop where
  whole_ne_nil : t.whole ≠ []
  whole : ∀ c ∈ t.whole, Text.isDigit c = true
  zero : t.whole.head? = some '0' → t.whole = ['0']
  fraction : ∀ c ∈ t.fraction, Text.isDigit c = true
  exponent : ∀ e ∈ t.exponent, e.2 ≠ [] ∧ ∀ c ∈ e.2, Text.isDigit c = true

end NumberText

/-- After the sign a number begins with a digit. -/
theorem NumberText.WellFormed.exists_unsigned {t : NumberText} (ht : t.WellFormed)
    (plusSign : Bool) :
    ∃ c cs, t.unsigned plusSign = c :: cs ∧ Text.isDigit c = true := by
  obtain ⟨c, cs, hwhole⟩ := List.exists_cons_of_ne_nil ht.whole_ne_nil
  have hdigit : Text.isDigit c = true := ht.whole c (hwhole ▸ List.mem_cons_self)
  exact ⟨c, _, by rw [unsigned, hwhole, List.cons_append], hdigit⟩

open NumberText

/-! ## What may follow -/

/-- The text goes on with no digit in front. -/
def EndsDigits (rest : List Char) : Prop :=
  ∀ c ∈ rest.head?, Text.isDigit c = false

/-- The text goes on with nothing that could belong to a number in front of it. -/
def EndsNumber (rest : List Char) : Prop :=
  ∀ c ∈ rest.head?, Text.isDigit c = false ∧ c ≠ '.' ∧ c ≠ 'e' ∧ c ≠ 'E'

variable {digits rest : List Char} {exponent : Option (Bool × List Char)}

theorem endsNumber_cons {c : Char} (h : Text.isDigit c = false ∧ c ≠ '.' ∧ c ≠ 'e' ∧ c ≠ 'E')
    (rest : List Char) : EndsNumber (c :: rest) := by
  intro d hd
  rw [List.head?_cons, Option.mem_def, Option.some.injEq] at hd
  rwa [← hd]

theorem EndsNumber.endsDigits (h : EndsNumber rest) : EndsDigits rest :=
  fun c hc => (h c hc).1

theorem EndsDigits.cons {c : Char} (h : Text.isDigit c = false) (rest : List Char) :
    EndsDigits (c :: rest) := by
  intro d hd
  rw [List.head?_cons, Option.mem_def, Option.some.injEq] at hd
  rwa [← hd]

theorem EndsNumber.exponentChars (h : EndsNumber rest) (plusSign : Bool)
    (exponent : Option (Bool × List Char)) :
    EndsDigits (exponentChars plusSign exponent ++ rest) ∧
      (exponentChars plusSign exponent ++ rest).head? ≠ some '.' := by
  cases exponent with
  | none => exact ⟨h.endsDigits, fun hpoint => (h '.' hpoint).2.1 rfl⟩
  | some e => exact ⟨.cons (by decide) _, by simp [NumberText.exponentChars]⟩

theorem EndsDigits.fractionChars (h : EndsDigits rest) (fraction : List Char) :
    EndsDigits (fractionChars fraction ++ rest) := by
  cases fraction with
  | nil => exact h
  | cons c cs => exact .cons (by decide) _

/-! ## Parts in a text -/

theorem spanDigits_append (hdigits : ∀ c ∈ digits, Text.isDigit c = true)
    (hrest : EndsDigits rest) : spanDigits (digits ++ rest) = (digits, rest) := by
  have hnone : rest.takeWhile Text.isDigit = [] ∧ rest.dropWhile Text.isDigit = rest := by
    cases rest with
    | nil => exact ⟨rfl, rfl⟩
    | cons c rest =>
      have hc : Text.isDigit c = false := hrest c rfl
      simp [hc]
  rw [spanDigits, List.takeWhile_append_of_pos hdigits, List.dropWhile_append_of_pos hdigits,
    hnone.1, hnone.2, List.append_nil]

theorem scanWhole_append (hne : digits ≠ []) (hdigits : ∀ c ∈ digits, Text.isDigit c = true)
    (hzero : digits.head? = some '0' → digits = ['0']) (hrest : EndsDigits rest) :
    scanWhole (digits ++ rest) = .ok (digits, rest) := by
  unfold scanWhole
  rw [spanDigits_append hdigits hrest]
  match digits, hne, hzero with
  | [c], _, _ => simp
  | c :: d :: more, _, hzero =>
    have hc : c ≠ '0' := fun h => absurd (hzero (congrArg some h)) (by simp)
    simp [hc]

theorem scanFraction_append {fraction : List Char} (hdigits : ∀ c ∈ fraction, Text.isDigit c = true)
    (hrest : EndsDigits rest) (hpoint : rest.head? ≠ some '.') :
    scanFraction (fractionChars fraction ++ rest) = .ok (fraction, rest) := by
  cases fraction with
  | nil =>
    rw [NumberText.fractionChars, List.nil_append]
    unfold scanFraction
    split
    · exact absurd rfl hpoint
    · rfl
  | cons c cs =>
    have hspan := spanDigits_append hdigits hrest
    rw [List.cons_append] at hspan
    simp only [NumberText.fractionChars, List.cons_append, scanFraction, hspan]

/-- Digits do not begin with a sign. -/
theorem scanSign_digits (hne : digits ≠ []) (hdigits : ∀ c ∈ digits, Text.isDigit c = true)
    (rest : List Char) : scanSign (digits ++ rest) = (false, digits ++ rest) := by
  obtain ⟨c, cs, rfl⟩ := List.exists_cons_of_ne_nil hne
  have hc : Text.isDigit c = true := hdigits c List.mem_cons_self
  rw [List.cons_append]
  unfold scanSign
  split
  · next h => exact absurd hc (by rw [(List.cons.inj h).1]; decide)
  · next h => exact absurd hc (by rw [(List.cons.inj h).1]; decide)
  · rfl

theorem scanExponent_append (plusSign : Bool)
    (hexponent : ∀ e ∈ exponent, e.2 ≠ [] ∧ ∀ c ∈ e.2, Text.isDigit c = true)
    (hrest : EndsNumber rest) :
    scanExponent (exponentChars plusSign exponent ++ rest) = .ok (exponent, rest) := by
  cases exponent with
  | none =>
    rw [NumberText.exponentChars, List.nil_append]
    cases rest with
    | nil => rfl
    | cons c more =>
      obtain ⟨-, -, he, hE⟩ := hrest c rfl
      exact if_neg (not_or.2 ⟨he, hE⟩)
  | some e =>
    obtain ⟨negative, digits⟩ := e
    obtain ⟨hne, hdigits⟩ := hexponent _ rfl
    have hsign : scanSign ((if negative then ['-'] else if plusSign then ['+'] else []) ++
        (digits ++ rest)) = (negative, digits ++ rest) := by
      cases negative with
      | true => rfl
      | false =>
        cases plusSign with
        | true => rfl
        | false => exact scanSign_digits hne hdigits rest
    have hspan := spanDigits_append hdigits hrest.endsDigits
    rw [NumberText.exponentChars, List.cons_append, List.cons_append, List.append_assoc,
      scanExponent, if_pos (Or.inl rfl), hsign, hspan]
    cases digits with
    | nil => exact absurd rfl hne
    | cons c cs => rfl

/-- The parts of a number are found in a text where nothing follows that would make another number
of them. -/
theorem scanNumber_unsigned {t : NumberText} (ht : t.WellFormed) (plusSign : Bool)
    (hrest : EndsNumber rest) :
    scanNumber t.negative (t.unsigned plusSign ++ rest) = .ok (t, rest) := by
  obtain ⟨hends, hpoint⟩ := hrest.exponentChars plusSign t.exponent
  have hwhole := scanWhole_append ht.whole_ne_nil ht.whole ht.zero (hends.fractionChars t.fraction)
  have hfraction := scanFraction_append ht.fraction hends hpoint
  have hexponent := scanExponent_append plusSign ht.exponent hrest
  unfold scanNumber
  rw [unsigned, List.append_assoc, List.append_assoc, hwhole]
  simp only [bind, Except.bind, hfraction, hexponent]
  rfl

end BlocklistWatch.Json
