/-!
# ASCII letters and digits

Case folding that touches the letters A to Z alone, and natural numbers written in decimal and
in lower-case hexadecimal.
-/

namespace BlocklistWatch.Text

/-- A letter of A to Z in lower case; every other character unchanged. -/
def foldChar (c : Char) : Char :=
  if 'A' ≤ c ∧ c ≤ 'Z' then Char.ofNat (c.toNat + 32) else c

def foldCase (s : String) : String :=
  String.ofList (s.toList.map foldChar)

def isDigit (c : Char) : Bool :=
  '0' ≤ c && c ≤ '9'

def digitValue (c : Char) : Nat :=
  c.toNat - '0'.toNat

def digitsValue (cs : List Char) : Nat :=
  cs.foldl (fun n c => 10 * n + digitValue c) 0

def hexDigit (n : Nat) : Char :=
  if n < 10 then Char.ofNat ('0'.toNat + n) else Char.ofNat ('a'.toNat + (n - 10))

def hexValue? (c : Char) : Option Nat :=
  if isDigit c then some (digitValue c)
  else if 'a' ≤ c ∧ c ≤ 'f' then some (c.toNat - 'a'.toNat + 10)
  else if 'A' ≤ c ∧ c ≤ 'F' then some (c.toNat - 'A'.toNat + 10)
  else none

/-- The digits of `n` in base `base`, most significant first, in front of `rest`. -/
def digitsOnto (base : Nat) (n : Nat) (rest : List Char) : List Char :=
  if _h : n < base ∨ base < 2 then hexDigit n :: rest
  else digitsOnto base (n / base) (hexDigit (n % base) :: rest)
termination_by n
decreasing_by exact Nat.div_lt_self (by omega) (by omega)

def decimalDigits (n : Nat) : List Char :=
  digitsOnto 10 n []

def decimal (n : Nat) : String :=
  String.ofList (decimalDigits n)

def hexadecimal (n : Nat) : String :=
  String.ofList (digitsOnto 16 n [])

def padZeros (width : Nat) (cs : List Char) : List Char :=
  List.replicate (width - cs.length) '0' ++ cs

def decimalPadded (width n : Nat) : String :=
  String.ofList (padZeros width (decimalDigits n))

@[simp] theorem toList_foldCase (s : String) :
    (foldCase s).toList = s.toList.map foldChar := by
  simp [foldCase]

theorem foldChar_foldChar (c : Char) : foldChar (foldChar c) = foldChar c := by
  unfold foldChar
  split
  · next h =>
    obtain ⟨h₁, h₂⟩ := h
    simp only [Char.le_def, UInt32.le_iff_toNat_le] at h₁ h₂
    have hA : ('A' : Char).val.toNat = 65 := rfl
    have hZ : ('Z' : Char).val.toNat = 90 := rfl
    have hc : c.toNat = c.val.toNat := rfl
    have hv : (c.toNat + 32).isValidChar := Or.inl (by omega)
    have ht : (Char.ofNat (c.toNat + 32)).val.toNat = c.toNat + 32 := by
      rw [Char.ofNat, dif_pos hv]
      rfl
    rw [if_neg]
    rintro ⟨-, h₄⟩
    simp only [Char.le_def, UInt32.le_iff_toNat_le] at h₄
    omega
  · rfl

end BlocklistWatch.Text
