import BlocklistWatch.Text.Ascii
import BlocklistWatch.Text.Pieces

/-!
# IPv4 addresses

Four octets and their dotted text. The text form is strict: four decimal parts from 0 to 255, each
of one to three digits without a sign, a leading zero or a blank.

* `Ipv4.parse?` reads the dotted text, `Ipv4.text` writes it.
* `Ipv4.isLoopback` tells the block 127.0.0.0/8, from which lists answer.
-/

namespace BlocklistWatch

/-- An IPv4 address, most significant octet first. -/
structure Ipv4 where
  a : UInt8
  b : UInt8
  c : UInt8
  d : UInt8
deriving DecidableEq, Repr, Inhabited

namespace Ipv4

/-- One part of a dotted address: one to three digits, no leading zero, at most 255. -/
def octet? (cs : List Char) : Option UInt8 :=
  if cs ≠ [] ∧ cs.length ≤ 3 ∧ cs.all Text.isDigit ∧ (cs.head? = some '0' → cs.length = 1) ∧
      Text.digitsValue cs ≤ 255 then
    some (UInt8.ofNat (Text.digitsValue cs))
  else none

def parse? (s : String) : Option Ipv4 :=
  match Text.cutAt '.' s.toList with
  | [a, b, c, d] => do
    let a ← octet? a
    let b ← octet? b
    let c ← octet? c
    let d ← octet? d
    return ⟨a, b, c, d⟩
  | _ => none

def octetDigits (o : UInt8) : List Char :=
  Text.decimalDigits o.toNat

def chars (ip : Ipv4) : List Char :=
  Text.joinWith '.' [octetDigits ip.a, octetDigits ip.b, octetDigits ip.c, octetDigits ip.d]

def text (ip : Ipv4) : String :=
  String.ofList ip.chars

def reversed (ip : Ipv4) : Ipv4 :=
  ⟨ip.d, ip.c, ip.b, ip.a⟩

def isLoopback (ip : Ipv4) : Bool :=
  ip.a == 127

@[simp] theorem reversed_reversed (ip : Ipv4) : ip.reversed.reversed = ip := rfl

end Ipv4

end BlocklistWatch
