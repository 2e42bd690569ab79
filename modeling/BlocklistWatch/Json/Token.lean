import BlocklistWatch.Json.Number

/-!
# JSON tokens

A text cut into punctuation, literals, numbers and strings, blanks left out. Cutting stops at the
first place that is no token, which then is the last token.

* `Token.scan` cuts a text.
* `StringText.value` is the text that a written string denotes.
-/

namespace BlocklistWatch.Json

inductive Fault where
  | cut
  | malformed
deriving DecidableEq, Repr, Inhabited

/-- A piece of a written string: a character, or a UTF-16 unit written by its number. -/
inductive StringUnit where
  | char (c : Char)
  | code (n : Nat)
deriving DecidableEq, Repr

/-- A string as written, up to its closing quote or its first fault. -/
structure StringText where
  units : List StringUnit
  fault : Option Fault
deriving DecidableEq, Repr, Inhabited

/-! ## What a written string denotes -/

def pairChar (high low : Nat) : Char :=
  Char.ofNat (0x10000 + (high - 0xD800) * 0x400 + (low - 0xDC00))

/-- The characters of a written string. A high surrogate needs a low one right after it, and a low
one has no meaning of its own; `ending` is what the string stops with. -/
def unitChars (ending : Option Fault) : List StringUnit → Except Fault (List Char)
  | [] =>
    match ending with
    | none => .ok []
    | some f => .error f
  | .char c :: us => (unitChars ending us).map (c :: ·)
  | .code n :: us =>
    if 0xDC00 ≤ n ∧ n ≤ 0xDFFF then .error .malformed
    else if n < 0xD800 ∨ 0xDBFF < n then (unitChars ending us).map (Char.ofNat n :: ·)
    else
      match us with
      | [] => .error (ending.getD .malformed)
      | .char _ :: _ => .error .malformed
      | .code m :: us =>
        if m < 0xDC00 ∨ 0xDFFF < m then .error .malformed
        else (unitChars ending us).map (pairChar n m :: ·)

def StringText.value (s : StringText) : Except Fault String :=
  (unitChars s.fault s.units).map String.ofList

/-! ## Scanning strings -/

def escapeChar? : Char → Option Char
  | '"' => some '"'
  | '\\' => some '\\'
  | '/' => some '/'
  | 'b' => some '\x08'
  | 'f' => some '\x0c'
  | 'n' => some '\n'
  | 'r' => some '\r'
  | 't' => some '\t'
  | _ => none

def unitOfHex? (a b c d : Char) : Option Nat := do
  let a ← Text.hexValue? a
  let b ← Text.hexValue? b
  let c ← Text.hexValue? c
  let d ← Text.hexValue? d
  return ((a * 16 + b) * 16 + c) * 16 + d

/-- Whether fewer than four bytes of UTF-8 are left. -/
def fewBytes (cs : List Char) : Bool :=
  (cs.take 4).foldl (fun n c => n + c.utf8Size) 0 < 4

def StringText.cons (u : StringUnit) (s : StringText) : StringText :=
  { s with units := u :: s.units }

/-- The string after an opening quote, and the text after its closing quote. -/
def scanString : List Char → StringText × List Char
  | [] => (⟨[], some .cut⟩, [])
  | '"' :: cs => (⟨[], none⟩, cs)
  | '\\' :: cs =>
    match cs with
    | [] => (⟨[], some .cut⟩, [])
    | 'u' :: cs =>
      match cs with
      | a :: b :: c :: d :: rest =>
        match unitOfHex? a b c d with
        | some n =>
          let (s, rest) := scanString rest
          (s.cons (.code n), rest)
        | none => (⟨[], some .malformed⟩, [])
      | short => (⟨[], some (if fewBytes short then .cut else .malformed)⟩, [])
    | e :: cs =>
      match escapeChar? e with
      | some c =>
        let (s, rest) := scanString cs
        (s.cons (.char c), rest)
      | none => (⟨[], some .malformed⟩, [])
  | c :: cs =>
    if c.toNat < 0x20 then (⟨[], some .malformed⟩, [])
    else
      let (s, rest) := scanString cs
      (s.cons (.char c), rest)

theorem length_scanString_le (cs : List Char) : (scanString cs).2.length ≤ cs.length := by
  fun_induction scanString cs <;> simp_all <;> omega

/-! ## Scanning numbers -/

def spanDigits (cs : List Char) : List Char × List Char :=
  (cs.takeWhile Text.isDigit, cs.dropWhile Text.isDigit)

/-- What a number lacks at a place where a digit is due. -/
def digitFault : List Char → Fault
  | [] => .cut
  | _ => .malformed

def scanSign : List Char → Bool × List Char
  | '+' :: rest => (false, rest)
  | '-' :: rest => (true, rest)
  | rest => (false, rest)

def scanExponent (cs : List Char) : Except Fault (Option (Bool × List Char) × List Char) :=
  match cs with
  | [] => .ok (none, [])
  | c :: rest =>
    if c = 'e' ∨ c = 'E' then
      match spanDigits (scanSign rest).2 with
      | ([], rest) => .error (digitFault rest)
      | (digits, after) => .ok (some ((scanSign rest).1, digits), after)
    else .ok (none, cs)

def scanFraction (cs : List Char) : Except Fault (List Char × List Char) :=
  match cs with
  | '.' :: rest =>
    match spanDigits rest with
    | ([], rest) => .error (digitFault rest)
    | (digits, rest) => .ok (digits, rest)
  | _ => .ok ([], cs)

/-- The digits in front of the point: a zero stands alone. -/
def scanWhole (cs : List Char) : Except Fault (List Char × List Char) :=
  match spanDigits cs with
  | ([], rest) => .error (digitFault rest)
  | ('0' :: _ :: _, _) => .error .malformed
  | (digits, rest) => .ok (digits, rest)

def scanNumber (negative : Bool) (cs : List Char) : Except Fault (NumberText × List Char) := do
  let (whole, cs) ← scanWhole cs
  let (fraction, cs) ← scanFraction cs
  let (exponent, cs) ← scanExponent cs
  return (⟨negative, whole, fraction, exponent⟩, cs)

theorem length_spanDigits_le (cs : List Char) : (spanDigits cs).2.length ≤ cs.length :=
  (List.dropWhile_sublist _).length_le

theorem length_spanDigits (cs : List Char) :
    (spanDigits cs).1.length + (spanDigits cs).2.length = cs.length := by
  rw [← List.length_append, spanDigits, List.takeWhile_append_dropWhile]

theorem length_scanSign_le (cs : List Char) : (scanSign cs).2.length ≤ cs.length := by
  unfold scanSign
  split <;> simp

theorem length_scanWhole_lt {cs rest digits : List Char}
    (h : scanWhole cs = .ok (digits, rest)) : rest.length < cs.length := by
  have hs := length_spanDigits cs
  unfold scanWhole at h
  split at h
  · simp at h
  · simp at h
  · next ds r hne _ he =>
    simp only [Except.ok.injEq, Prod.mk.injEq] at h
    obtain ⟨rfl, rfl⟩ := h
    rw [he] at hs
    have hd : ds ≠ [] := hne
    have := List.length_pos_iff.2 hd
    simp only at hs
    omega

theorem length_scanFraction_le {cs rest digits : List Char}
    (h : scanFraction cs = .ok (digits, rest)) : rest.length ≤ cs.length := by
  unfold scanFraction at h
  split at h
  · next r =>
    have hs := length_spanDigits_le r
    split at h <;> simp_all
    omega
  · simp_all

theorem length_scanExponent_le {cs rest : List Char} {e : Option (Bool × List Char)}
    (h : scanExponent cs = .ok (e, rest)) : rest.length ≤ cs.length := by
  unfold scanExponent at h
  split at h
  · simp_all
  · next c r =>
    have hq := length_scanSign_le r
    have hs := length_spanDigits_le (scanSign r).2
    split at h
    · split at h <;> simp_all
      omega
    · simp_all

theorem length_scanNumber_lt {negative : Bool} {cs rest : List Char} {t : NumberText}
    (h : scanNumber negative cs = .ok (t, rest)) : rest.length < cs.length := by
  unfold scanNumber at h
  cases h₁ : scanWhole cs with
  | error f => simp [h₁, bind, Except.bind] at h
  | ok w =>
    cases h₂ : scanFraction w.2 with
    | error f => simp [h₁, h₂, bind, Except.bind] at h
    | ok f =>
      cases h₃ : scanExponent f.2 with
      | error f => simp [h₁, h₂, h₃, bind, Except.bind] at h
      | ok e =>
        simp only [h₁, h₂, h₃, bind, Except.bind, pure, Except.pure, Except.ok.injEq,
          Prod.mk.injEq] at h
        have l₁ := length_scanWhole_lt h₁
        have l₂ := length_scanFraction_le h₂
        have l₃ := length_scanExponent_le h₃
        rw [← h.2]
        omega

/-! ## Tokens -/

inductive Token where
  | openBrace
  | closeBrace
  | openBracket
  | closeBracket
  | colon
  | comma
  | null
  | bool (b : Bool)
  | number (n : NumberText)
  | badNumber (f : Fault)
  | string (s : StringText)
  | badLiteral (f : Fault)
  | junk
deriving DecidableEq, Repr

namespace Token

/-- The rest of a literal: the text after it, or the fault at its first wrong letter. -/
def literal : (letters cs : List Char) → Except Fault (List Char)
  | [], cs => .ok cs
  | _ :: _, [] => .error .cut
  | l :: ls, c :: cs => if l = c then literal ls cs else .error .malformed

theorem length_literal_le {letters cs rest : List Char} (h : literal letters cs = .ok rest) :
    rest.length ≤ cs.length := by
  induction letters generalizing cs with
  | nil => simp only [literal, Except.ok.injEq] at h; simp [h]
  | cons l ls ih =>
    cases cs with
    | nil => simp [literal] at h
    | cons c cs =>
      rw [literal] at h
      split at h
      · have := ih h
        simp only [List.length_cons]
        omega
      · simp at h

def isBlank (c : Char) : Bool :=
  c == ' ' || c == '\n' || c == '\t' || c == '\r'

def punctuation? : Char → Option Token
  | '\x7b' => some openBrace
  | '\x7d' => some closeBrace
  | '[' => some openBracket
  | ']' => some closeBracket
  | ':' => some colon
  | ',' => some comma
  | _ => none

def literal? : Char → Option (List Char × Token)
  | 'n' => some (['u', 'l', 'l'], null)
  | 't' => some (['r', 'u', 'e'], bool true)
  | 'f' => some (['a', 'l', 's', 'e'], bool false)
  | _ => none

def scan (cs : List Char) : List Token :=
  match cs with
  | [] => []
  | c :: cs =>
    if isBlank c then scan cs
    else if c = '"' then
      string (scanString cs).1 ::
        (if (scanString cs).1.fault.isSome then [] else scan (scanString cs).2)
    else if c = '-' then
      match _h : scanNumber true cs with
      | .ok (n, rest) => number n :: scan rest
      | .error f => [badNumber f]
    else if Text.isDigit c then
      match _h : scanNumber false (c :: cs) with
      | .ok (n, rest) => number n :: scan rest
      | .error f => [badNumber f]
    else
      match punctuation? c with
      | some t => t :: scan cs
      | none =>
        match literal? c with
        | none => [junk]
        | some (letters, t) =>
          match _h : literal letters cs with
          | .ok rest => t :: scan rest
          | .error f => [badLiteral f]
termination_by cs.length
decreasing_by
  · simp
  · exact Nat.lt_succ_of_le (length_scanString_le cs)
  · exact Nat.lt_succ_of_lt (length_scanNumber_lt _h)
  · exact length_scanNumber_lt _h
  · simp
  · exact Nat.lt_succ_of_le (length_literal_le _h)

end Token

end BlocklistWatch.Json
