import BlocklistWatch.Web.Bytes

/-!
# Percent encoding

Characters that may not stand in a part of a URL are written as the bytes of their UTF-8 form, each
as a percent sign and two hexadecimal digits in capitals.

* `percentEncode` writes the characters of a set so.
* `formEncode` writes the names and values of a query, `formQuery` the whole query.
-/

namespace BlocklistWatch.Web

def percentByte (b : Nat) : List Char :=
  let capital (c : Char) : Char := if 'a' ≤ c ∧ c ≤ 'f' then Char.ofNat (c.toNat - 32) else c
  ['%', capital (Text.hexDigit (b / 16)), capital (Text.hexDigit (b % 16))]

def isControlOrWide (c : Char) : Bool :=
  c.toNat < 0x20 || 0x7E < c.toNat

def escapedInPath (c : Char) : Bool :=
  isControlOrWide c || [' ', '"', '<', '>', '`', '#', '?', '\x7b', '\x7d'].contains c

def escapedInQuery (c : Char) : Bool :=
  isControlOrWide c || [' ', '"', '#', '<', '>', '\''].contains c

def percentEncode (escaped : Char → Bool) (cs : List Char) : List Char :=
  cs.flatMap fun c => if escaped c then (charBytes c).flatMap percentByte else [c]

/-- The bytes of a text in which percent signs with two hexadecimal digits stand for bytes. -/
def percentDecode : List Char → List Nat
  | [] => []
  | '%' :: a :: b :: cs =>
    match Text.hexValue? a, Text.hexValue? b with
    | some x, some y => (x * 16 + y) :: percentDecode cs
    | _, _ => '%'.toNat :: percentDecode (a :: b :: cs)
  | c :: cs => charBytes c ++ percentDecode cs

def isFormSafe (c : Char) : Bool :=
  Text.isDigit c || ('a' ≤ c && c ≤ 'z') || ('A' ≤ c && c ≤ 'Z') || ['*', '-', '.', '_'].contains c

def formEncode (s : String) : List Char :=
  s.toList.flatMap fun c =>
    if c = ' ' then ['+'] else if isFormSafe c then [c] else (charBytes c).flatMap percentByte

def formQuery (pairs : List (String × String)) : String :=
  String.ofList (['&'].intercalate (pairs.map fun (name, value) =>
    formEncode name ++ '=' :: formEncode value))

end BlocklistWatch.Web
