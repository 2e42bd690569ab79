import BlocklistWatch.Ipv4
import BlocklistWatch.Json.Decoder
import BlocklistWatch.Time.Rfc3339
import BlocklistWatch.Zone.Set

/-!
# JSON forms of single values

How addresses, sets of zones, moments and counters stand in JSON, and how they are decoded.

* Addresses and moments are strings, a set of zones is the list of its members in increasing order.
* Decoding a set takes its members in any order and any number of times.
-/

namespace BlocklistWatch

open Json (Value Decoder)

def Ipv4.json (ip : Ipv4) : Value :=
  .string ip.text

def Ipv4.decoder : Decoder Ipv4 :=
  .parsed "IPv4 address" fun s =>
    match Ipv4.parse? s with
    | some ip => .ok ip
    | none => .error "invalid IPv4 address syntax"

def ZoneSet.json (zones : ZoneSet) : Value :=
  .strings zones.toList

def stringsDecoder : Decoder (List String) :=
  .list .text

def ZoneSet.decoder : Decoder ZoneSet :=
  stringsDecoder.map .ofList

def Moment.json (m : Moment) : Value :=
  .string m.text

def Stamp.json (s : Stamp) : Value :=
  .string s.text

def Stamp.decoder : Decoder Stamp :=
  .parsed "an RFC 3339 formatted date and time string" fun s =>
    match Stamp.parse s with
    | .ok stamp => .ok stamp
    | .error e => .error e.message

/-- Decodes a moment; the offset under which it was written is forgotten. -/
def Moment.decoder : Decoder Moment :=
  Stamp.decoder.map (·.moment)

def byteDecoder : Decoder UInt8 :=
  (Decoder.natural "u8" (UInt8.size - 1)).map .ofNat

def wordDecoder : Decoder UInt64 :=
  (Decoder.natural "u64" (UInt64.size - 1)).map .ofNat

def byteJson (n : UInt8) : Value :=
  .nat n.toNat

def wordJson (n : UInt64) : Value :=
  .nat n.toNat

/-- The choices of a type by their names. -/
def namedChoices {α : Type} (name : α → String) (all : List α) : List (String × α) :=
  all.map fun a => (name a, a)

end BlocklistWatch
