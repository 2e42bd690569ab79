import BlocklistWatch.Proofs.Json.Records

/-!
# What a decoded record was read from

A record that was decoded has of each field what stands in the text under the name of the field, or
in an array at its place, and nothing else.

* `Reading.field?` is what stands there for a field.
* `Shape.of_readMembers` is the converse of `Shape.readMembers_eq`, and `Shape.of_decoder_object`
  says what an object was decoded from.
* `Shape.of_decoder_array` says the same of an array.
* `Shape.seq_ofMembers_eq_ok` and `Shape.seq_ofItems_eq_ok` take a record apart into its fields.
-/

namespace BlocklistWatch.Json

/-- What stands for a field in a tree: the first member with its name, or the element at its
place. -/
def Reading.field? (name : String) (place : Nat) : Reading → Option Reading
  | .object members _ => (members.find? fun m => m.1.value.toOption == some name).map (·.2)
  | .array items _ => items[place]?
  | _ => none

namespace Decoder

variable {depth : Nat} {r : Reading}

theorem orFault_eq_ok {α : Type} {x : Except Fault α} {a : α} (h : orFault x = .ok a) :
    x = .ok a := by
  cases x with
  | ok b => exact congrArg Except.ok (Except.ok.inj h)
  | error f => cases h

theorem of_bool {b : Bool} (h : bool depth r = .ok b) : r = .bool b := by
  unfold bool at h
  split at h
  · rw [Except.ok.inj h]
  · exact absurd h (mismatch_ne_ok _ _ _)

theorem of_nullable {α : Type} {d : Decoder α} {o : Option α} (h : nullable d depth r = .ok o) :
    (r = .null ∧ o = none) ∨ ∃ a, d depth r = .ok a ∧ o = some a := by
  unfold nullable at h
  split at h
  · exact .inl ⟨rfl, (Except.ok.inj h).symm⟩
  · obtain ⟨a, ha, rfl⟩ := map_eq_ok.1 h
    exact .inr ⟨a, ha, rfl⟩

end Decoder

namespace Shape

variable {α β : Type} {depth : Nat} {x : Shape α} {before kept ms : Members}
  {members : List (StringText × Reading)} {stop : Option Fault} {text : StringText} {r : Reading}

/-! ## Members that were kept -/

theorem get?_of_spells (h : Spells members ms) (name : String) (stop : Option Fault) (place : Nat) :
    (Reading.object members stop).field? name place = ms.get? name := by
  rw [Reading.field?, Members.get?]
  induction h with
  | nil => rfl
  | @cons m n members ms hm _ ih =>
    obtain ⟨hname, hr⟩ := hm
    have hhead : ((.ok n.1 : Except Fault String).toOption == some name) = (n.1 == name) := rfl
    rw [List.find?_cons, List.find?_cons, hname, hhead]
    cases n.1 == name with
    | true => exact congrArg some hr
    | false => exact ih

theorem of_readMember (h : readMember x.fields depth before text r = .ok kept) :
    ∃ name, text.value = .ok name ∧ kept = before ++ x.own [(name, r)] := by
  unfold readMember at h
  obtain ⟨name, hname, h⟩ := Decoder.bind_eq_ok.1 h
  refine ⟨name, Decoder.orFault_eq_ok hname, ?_⟩
  split at h
  · next hfind =>
    obtain ⟨_, -, hkept⟩ := Decoder.bind_eq_ok.1 h
    have hother : name ∉ x.names := fun hmem => by
      obtain ⟨field, hfield, -⟩ := find?_of_mem_names hmem
      rw [hfind] at hfield
      cases hfield
    rw [own_cons_of_not_mem hother, own, List.filter_nil, List.append_nil]
    exact (Except.ok.inj hkept).symm
  · next field check hfind =>
    split at h
    · cases h
    · obtain ⟨_, -, hkept⟩ := Decoder.bind_eq_ok.1 h
      have hsame : field = name := by simpa using List.find?_some hfind
      have hmem : name ∈ x.names := by
        rw [← hsame]
        exact List.mem_map_of_mem (List.mem_of_find?_eq_some hfind)
      rw [own_cons_of_mem hmem, own, List.filter_nil]
      exact (Except.ok.inj hkept).symm

/-- By induction on the members, behind those that were kept before. -/
theorem of_readMembers (h : readMembers x.fields depth stop before members = .ok kept) :
    ∃ ms, Spells members ms ∧ kept = before ++ x.own ms := by
  induction members generalizing before with
  | nil =>
    obtain ⟨_, -, rfl⟩ := Decoder.map_eq_ok.1 h
    exact ⟨[], .nil, (List.append_nil before).symm⟩
  | cons m members ih =>
    obtain ⟨text, r⟩ := m
    rw [readMembers] at h
    obtain ⟨between, hmember, hrest⟩ := Decoder.bind_eq_ok.1 h
    obtain ⟨name, hname, rfl⟩ := of_readMember hmember
    obtain ⟨ms, hspells, rfl⟩ := ih hrest
    refine ⟨(name, r) :: ms, .cons ⟨hname, rfl⟩ hspells, ?_⟩
    rw [List.append_assoc, own, own, ← List.filter_append, List.singleton_append]
    rfl

/-! ## Whole records -/

/-- A record is decoded from an object or from an array only. -/
theorem object_or_array_of_decoder {a : α} {record : String}
    (h : x.decoder record depth r = .ok a) :
    (∃ members stop, r = .object members stop) ∨ ∃ items stop, r = .array items stop := by
  unfold decoder at h
  split at h
  · next members stop => exact .inl ⟨members, stop, rfl⟩
  · next items stop => exact .inr ⟨items, stop, rfl⟩
  · obtain ⟨_, -, hfault⟩ := Decoder.bind_eq_ok.1 h
    cases hfault
  · exact absurd h (Decoder.mismatch_ne_ok _ _ _)

theorem of_decoder_object {a : α} {record : String}
    (h : x.decoder record depth (.object members stop) = .ok a) :
    ∃ inner ms, x.ofMembers inner ms = .ok a ∧
      ∀ name ∈ x.names, ∀ place,
        ms.get? name = (Reading.object members stop).field? name place := by
  obtain ⟨inner, -, h⟩ := Decoder.bind_eq_ok.1 h
  obtain ⟨kept, hkept, hmade⟩ := Decoder.bind_eq_ok.1 h
  obtain ⟨ms, hspells, rfl⟩ := of_readMembers hkept
  refine ⟨inner, _, hmade, fun name hname place => ?_⟩
  rw [List.nil_append, get?_own hname, get?_of_spells hspells]

theorem of_decoder_array {a : α} {record : String} {rs : List Reading}
    (h : x.decoder record depth (.array rs stop) = .ok a) :
    ∃ inner expected place, x.ofItems expected inner stop 0 rs = .ok (a, place, []) := by
  obtain ⟨inner, -, h⟩ := Decoder.bind_eq_ok.1 h
  obtain ⟨⟨b, place, rest⟩, htaken, h⟩ := Decoder.bind_eq_ok.1 h
  cases rest with
  | nil =>
    obtain ⟨_, -, rfl⟩ := Decoder.map_eq_ok.1 h
    exact ⟨inner, _, place, htaken⟩
  | cons r rest => cases h

/-! ## Field by field -/

theorem seq_ofMembers_eq_ok {f : Shape (α → β)} {b : β} :
    (f.seq x).ofMembers depth ms = .ok b ↔
      ∃ g, f.ofMembers depth ms = .ok g ∧ ∃ a, x.ofMembers depth ms = .ok a ∧ g a = b := by
  dsimp only [seq]
  rw [Decoder.bind_eq_ok]
  refine exists_congr fun g => and_congr_right fun _ => ?_
  rw [Decoder.bind_eq_ok]
  refine exists_congr fun a => and_congr_right fun _ => ?_
  simp only [Pure.pure, Except.pure, Except.ok.injEq]

theorem seq_ofItems_eq_ok {f : Shape (α → β)} {b : β} {expected : String} {place last : Nat}
    {rs rest : List Reading} :
    (f.seq x).ofItems expected depth stop place rs = .ok (b, last, rest) ↔
      ∃ g next more, f.ofItems expected depth stop place rs = .ok (g, next, more) ∧
        ∃ a, x.ofItems expected depth stop next more = .ok (a, last, rest) ∧ g a = b := by
  dsimp only [seq]
  rw [Decoder.bind_eq_ok]
  constructor
  · rintro ⟨⟨g, next, more⟩, hg, h⟩
    obtain ⟨⟨a, last', rest'⟩, ha, hb⟩ := Decoder.bind_eq_ok.1 h
    obtain ⟨rfl, rfl, rfl⟩ : g a = b ∧ last' = last ∧ rest' = rest := by
      simpa only [Pure.pure, Except.pure, Except.ok.injEq, Prod.mk.injEq] using hb
    exact ⟨g, next, more, hg, a, ha, rfl⟩
  · rintro ⟨g, next, more, hg, a, ha, rfl⟩
    refine ⟨(g, next, more), hg, ?_⟩
    dsimp only
    rw [ha]
    rfl

variable {name : String} {d : Decoder α} {absent : Except DecodeError α} {a : α}

theorem of_fieldWith_ofMembers {short : Option α}
    (h : (fieldWith name d absent short).ofMembers depth ms = .ok a) :
    (∃ r, ms.get? name = some r ∧ d depth r = .ok a) ∨ ms.get? name = none ∧ absent = .ok a := by
  dsimp only [fieldWith] at h
  cases hget : ms.get? name with
  | none =>
    rw [hget] at h
    exact .inr ⟨rfl, h⟩
  | some r =>
    rw [hget] at h
    exact .inl ⟨r, rfl, h⟩

/-- A field that an array may not end before. -/
theorem of_fieldWith_ofItems {expected : String} {place last : Nat} {rs rest : List Reading}
    (h : (fieldWith name d absent none).ofItems expected depth stop place rs =
      .ok (a, last, rest)) :
    ∃ r, rs = r :: rest ∧ d depth r = .ok a := by
  dsimp only [fieldWith] at h
  cases rs with
  | nil =>
    obtain ⟨_, -, h⟩ := Decoder.bind_eq_ok.1 h
    cases h
  | cons r rs =>
    obtain ⟨b, hb, h⟩ := Decoder.bind_eq_ok.1 h
    obtain ⟨rfl, -, rfl⟩ : b = a ∧ place + 1 = last ∧ rs = rest := by
      simpa only [Pure.pure, Except.pure, Except.ok.injEq, Prod.mk.injEq] using h
    exact ⟨r, rfl, hb⟩

end Shape

end BlocklistWatch.Json
