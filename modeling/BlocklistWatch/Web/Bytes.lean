import BlocklistWatch.Text.Ascii

/-!
# Texts as bytes

The UTF-8 bytes of a text and back; a run of bytes that is no character is read as U+FFFD.

* `utf8Bytes` are the bytes of a text, `ofBytes` the text of some bytes.
* `base64` writes bytes with letters that may stand anywhere.
-/

namespace BlocklistWatch.Web

def charBytes (c : Char) : List Nat :=
  let n := c.toNat
  if n < 0x80 then [n]
  else if n < 0x800 then [0xC0 + n / 0x40, 0x80 + n % 0x40]
  else if n < 0x10000 then [0xE0 + n / 0x1000, 0x80 + n / 0x40 % 0x40, 0x80 + n % 0x40]
  else [0xF0 + n / 0x40000, 0x80 + n / 0x1000 % 0x40, 0x80 + n / 0x40 % 0x40, 0x80 + n % 0x40]

def utf8Bytes (cs : List Char) : List Nat :=
  cs.flatMap charBytes

/-! ## Reading bytes -/

def replacement : Char := '\uFFFD'

/-- What the first byte of a character says: how many bytes follow it, its own bits, and the range of
the byte after it. -/
def leadByte? (b : Nat) : Option (Nat × Nat × Nat × Nat) :=
  if 0xC2 ≤ b ∧ b ≤ 0xDF then some (1, b - 0xC0, 0x80, 0xBF)
  else if b = 0xE0 then some (2, 0, 0xA0, 0xBF)
  else if b = 0xED then some (2, 0xD, 0x80, 0x9F)
  else if 0xE1 ≤ b ∧ b ≤ 0xEF then some (2, b - 0xE0, 0x80, 0xBF)
  else if b = 0xF0 then some (3, 0, 0x90, 0xBF)
  else if b = 0xF4 then some (3, 4, 0x80, 0x8F)
  else if 0xF1 ≤ b ∧ b ≤ 0xF3 then some (3, b - 0xF0, 0x80, 0xBF)
  else none

/-- A character that is being read: its bits so far, the bytes still to come, and the range of the
next one. -/
structure Pending where
  bits : Nat
  missing : Nat
  low : Nat
  high : Nat

/-- The text of some bytes. What cannot be gone on with is one U+FFFD, and so is every byte that
begins nothing. -/
def decodeBytes : Option Pending → List Nat → List Char
  | none, [] => []
  | some _, [] => [replacement]
  | none, b :: bs =>
    if b < 0x80 then Char.ofNat b :: decodeBytes none bs
    else
      match leadByte? b with
      | none => replacement :: decodeBytes none bs
      | some (missing, bits, low, high) => decodeBytes (some ⟨bits, missing, low, high⟩) bs
  | some p, b :: bs =>
    if p.low ≤ b ∧ b ≤ p.high then
      let bits := p.bits * 0x40 + (b - 0x80)
      if p.missing ≤ 1 then Char.ofNat bits :: decodeBytes none bs
      else decodeBytes (some ⟨bits, p.missing - 1, 0x80, 0xBF⟩) bs
    else
      replacement ::
        if b < 0x80 then Char.ofNat b :: decodeBytes none bs
        else
          match leadByte? b with
          | none => replacement :: decodeBytes none bs
          | some (missing, bits, low, high) => decodeBytes (some ⟨bits, missing, low, high⟩) bs

def ofBytes (bs : List Nat) : String :=
  String.ofList (decodeBytes none bs)

/-! ## Letters for bytes -/

def base64Letter (n : Nat) : Char :=
  if n < 26 then Char.ofNat (n + 'A'.toNat)
  else if n < 52 then Char.ofNat (n - 26 + 'a'.toNat)
  else if n < 62 then Char.ofNat (n - 52 + '0'.toNat)
  else if n = 62 then '+'
  else '/'

/-- Four letters for every three bytes, filled up with equals signs. -/
def base64 : List Nat → List Char
  | [] => []
  | [a] => [base64Letter (a / 4), base64Letter (a % 4 * 16), '=', '=']
  | [a, b] =>
    [base64Letter (a / 4), base64Letter (a % 4 * 16 + b / 16), base64Letter (b % 16 * 4), '=']
  | a :: b :: c :: rest =>
    base64Letter (a / 4) :: base64Letter (a % 4 * 16 + b / 16) ::
      base64Letter (b % 16 * 4 + c / 64) :: base64Letter (c % 64) :: base64 rest

end BlocklistWatch.Web
