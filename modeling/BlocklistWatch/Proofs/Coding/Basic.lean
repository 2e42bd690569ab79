import BlocklistWatch.Coding.Basic
import BlocklistWatch.Proofs.Ipv4
import BlocklistWatch.Proofs.Json.Decoding

/-!
# Single values survive JSON

Counters, texts, addresses, lists of texts and sets of zones are decoded from the trees of their own
written forms.

* `wordDecoder_reading`, `byteDecoder_reading`, `text_reading`, `Ipv4.decoder_reading`,
  `stringsDecoder_reading` and `ZoneSet.decoder_strings` are the single decoders, `nullable_reading`
  is for values that may be absent.
-/

namespace BlocklistWatch

open Json (Value Decoder Reading)

/-! ## Trees of written values -/

section

variable {depth : Nat}

theorem natural_reading {n max : Nat} (expected : String) (hn : n ≤ max)
    (hmax : max ≤ Json.maxNatural) :
    Decoder.natural expected max depth (Value.nat n).reading = .ok n := by
  have hwhole : Json.Number.IsWhole (.natural n) := Nat.le_trans hn hmax
  rw [Value.nat, Value.reading, Decoder.natural, Decoder.numberOf_text hwhole]
  simp only [bind, Except.bind, if_pos hn]

theorem wordDecoder_reading (n : UInt64) : wordDecoder depth (wordJson n).reading = .ok n := by
  have hn : n.toNat ≤ UInt64.size - 1 := Nat.le_sub_one_of_lt n.toNat_lt
  rw [wordDecoder, Decoder.map, wordJson, natural_reading _ hn (Nat.le_refl _)]
  exact congrArg Except.ok UInt64.ofNat_toNat

theorem byteDecoder_reading (n : UInt8) : byteDecoder depth (byteJson n).reading = .ok n := by
  have hn : n.toNat ≤ UInt8.size - 1 := Nat.le_sub_one_of_lt n.toNat_lt
  rw [byteDecoder, Decoder.map, byteJson, natural_reading _ hn (by decide)]
  exact congrArg Except.ok UInt8.ofNat_toNat

theorem text_reading (s : String) : Decoder.text depth (Value.string s).reading = .ok s :=
  Decoder.orFault_value_ofString s

theorem Ipv4.decoder_reading (ip : Ipv4) : Ipv4.decoder depth ip.json.reading = .ok ip := by
  have htext : Decoder.textAs "IPv4 address" depth ip.json.reading = .ok ip.text :=
    Decoder.orFault_value_ofString ip.text
  rw [decoder, Decoder.parsed, htext]
  simp only [bind, Except.bind, Ipv4.parse?_text]

theorem stringsDecoder_reading (hdepth : 0 < depth) (xs : List String) :
    stringsDecoder (depth + 1) (Value.strings xs).reading = .ok xs := by
  have hitems : Decoder.items Decoder.text depth none
      (xs.map fun x => (Value.string x).reading) = .ok xs :=
    Decoder.items_map fun x _ => text_reading x
  rw [stringsDecoder, Value.strings, Value.reading, Value.itemReadings_eq_map, List.map_map,
    Decoder.list, Decoder.enter_succ hdepth]
  exact hitems

/-- The names may stand in any order and any number of times. -/
theorem ZoneSet.decoder_strings (hdepth : 0 < depth) (names : List String) :
    ZoneSet.decoder (depth + 1) (Value.strings names).reading = .ok (.ofList names) := by
  rw [decoder, Decoder.map, stringsDecoder_reading hdepth]
  rfl

theorem reading_byteJson_ne_null (n : UInt8) : (byteJson n).reading ≠ .null := by
  intro h
  cases h

theorem reading_string_ne_null (s : String) : (Value.string s).reading ≠ .null := by
  intro h
  cases h

theorem nullable_reading {α : Type} {d : Decoder α} {f : α → Value}
    (h : ∀ a, d depth (f a).reading = .ok a) (hnull : ∀ a, (f a).reading ≠ .null) (o : Option α) :
    Decoder.nullable d depth (Value.optional f o).reading = .ok o := by
  cases o with
  | none => rfl
  | some a =>
    rw [Value.optional, Decoder.nullable]
    · rw [h a]
      rfl
    · exact hnull a

end

end BlocklistWatch
