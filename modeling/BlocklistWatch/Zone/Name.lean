import BlocklistWatch.Ipv4
import BlocklistWatch.Text.Affix
import BlocklistWatch.Text.Blank
import BlocklistWatch.Text.Quoted

/-!
# Zone names and query names

A list is asked about an address under a query name: the octets of the address in opposite order,
then the name of the list's zone. Asking about 203.0.113.45 under zen.example.org means looking up
45.113.0.203.zen.example.org.

* `ZoneName.accept` trims a zone name and refuses what cannot be one.
* `QueryName.build` and `QueryName.parse` go from address and zone to query name and back.
-/

namespace BlocklistWatch

inductive NameError where
  | badAddress (text : String)
  | badZone (text : String)
  /-- The query name does not end in a dot and the zone. -/
  | notUnderZone (query zone : String)
  | partCount (found : Nat)
  | badPart (part query : String)
deriving DecidableEq, Repr

def NameError.message : NameError → String
  | .badAddress text => "invalid IPv4 address: " ++ text
  | .badZone text => "invalid DNSBL zone: " ++ Text.quoted text
  | .notUnderZone query zone =>
    "invalid DNSBL query name: query '" ++ query ++ "' not under zone '" ++ zone ++ "'"
  | .partCount found =>
    "invalid DNSBL query name: expected 4 octets in reversed IP, got " ++ Text.decimal found
  | .badPart part query =>
    "invalid DNSBL query name: invalid octet '" ++ part ++ "' in '" ++ query ++ "'"

namespace ZoneName

/-- A trimmed zone name that can be asked under: not empty, no leading dot, no blank inside. -/
def Acceptable (zone : List Char) : Prop :=
  zone ≠ [] ∧ zone.head? ≠ some '.' ∧ ∀ c ∈ zone, Text.isBlank c = false

def isAcceptable (zone : List Char) : Bool :=
  !zone.isEmpty && zone.head? != some '.' && !zone.any Text.isBlank

theorem isAcceptable_iff (zone : List Char) : isAcceptable zone = true ↔ Acceptable zone := by
  simp [isAcceptable, Acceptable, and_assoc]

instance (zone : List Char) : Decidable (Acceptable zone) :=
  decidable_of_iff _ (isAcceptable_iff zone)

def accept (zone : String) : Except NameError String :=
  if Acceptable (Text.trimBlanks zone.toList) then .ok (Text.trim zone)
  else .error (.badZone zone)

end ZoneName

namespace QueryName

def ofAddress (ip : Ipv4) (zone : String) : String :=
  ip.reversed.text ++ "." ++ zone

def build (ip zone : String) : Except NameError String :=
  match Ipv4.parse? (Text.trim ip) with
  | none => .error (.badAddress ip)
  | some addr => do
    let zone ← ZoneName.accept zone
    return ofAddress addr zone

/-- An octet inside a query name: an optional plus sign and digits of any number, at most 255. -/
def part? (cs : List Char) : Option UInt8 :=
  let digits := match cs with
    | '+' :: rest => rest
    | _ => cs
  if digits ≠ [] ∧ digits.all Text.isDigit ∧ Text.digitsValue digits ≤ 255 then
    some (UInt8.ofNat (Text.digitsValue digits))
  else none

def readPart (query : String) (cs : List Char) : Except NameError UInt8 :=
  match part? cs with
  | some o => .ok o
  | none => .error (.badPart (String.ofList cs) query)

/-- The address that a query name under a zone asks about; the last part is looked at first. -/
def parse (query zone : String) : Except NameError Ipv4 := do
  let zone ← ZoneName.accept zone
  match (Text.stripSuffix? zone.toList query.toList).bind (Text.stripSuffix? ['.']) with
  | none => .error (.notUnderZone query zone)
  | some front =>
    match Text.cutAt '.' front with
    | [d, c, b, a] => do
      let a ← readPart query a
      let b ← readPart query b
      let c ← readPart query c
      let d ← readPart query d
      return ⟨a, b, c, d⟩
    | parts => .error (.partCount parts.length)

end QueryName

end BlocklistWatch
