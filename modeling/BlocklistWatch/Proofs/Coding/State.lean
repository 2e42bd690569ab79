import BlocklistWatch.Coding.State
import BlocklistWatch.Proofs.Coding.Basic
import BlocklistWatch.Proofs.Json.Records
import BlocklistWatch.Proofs.Zone.Stored

/-!
# States and transitions survive JSON

What is recorded about an address and what a run changes about it are decoded from their own written
forms, and from other forms as well. Whatever text such a value was decoded from, what is written of
it is the same from then on.

* `IpState.WrittenAs`, `ZoneDelta.WrittenAs` and `Transition.WrittenAs` are the forms: an object with
  the fields in any order and among others, some of them left out, or an array with the fields by
  place. The zones of a state may be in any order and repeated.
* `IpState.decoder_of_writtenAs`, `ZoneDelta.decoder_of_writtenAs` and
  `Transition.decoder_of_writtenAs` decode these forms, field by field.
* `states_and_transitions_survive` is about whole texts.
-/

namespace BlocklistWatch

open Json (Members Reading Shape StringText Value)

variable {depth : Nat} {r : Reading} {found : String → Option Reading}
  {members : List (StringText × Reading)} {ms : Members}

/-! ## States -/

theorem ListingState.decoder_reading (s : ListingState) :
    decoder depth s.json.reading = .ok s := by
  rw [json, Value.reading, decoder, Json.Decoder.choice, Json.Decoder.orFault_value_ofString]
  cases s <;> rfl

namespace IpState

/-- What stands under the names of the fields is the state. -/
structure Stands (found : String → Option Reading) (s : IpState) : Prop where
  id : found "id" = some (wordJson s.id).reading
  address : found "address" = some s.address.json.reading
  priority : found "priority" = some (byteJson s.priority).reading
  backupPriority :
    found "backup_priority" = some (Value.optional byteJson s.backupPriority).reading ∨
      found "backup_priority" = none ∧ s.backupPriority = none
  listedZones : ∃ names, ZoneSet.ofList names = s.listedZones ∧
    (found "listed_zones" = some (Value.strings names).reading ∨
      found "listed_zones" = none ∧ s.listedZones = .empty)
  lastEvent :
    found "last_event" = some (Value.optional .string s.lastEvent).reading ∨
      found "last_event" = none ∧ s.lastEvent = none

/-- The trees of the forms in which the state may be written. -/
inductive WrittenAs (s : IpState) : Reading → Prop
  | object {members : List (StringText × Reading)} {ms : Members} :
      shape.Opens members ms → s.Stands ms.get? → s.WrittenAs (.object members none)
  | array {names : List String} :
      ZoneSet.ofList names = s.listedZones →
      s.WrittenAs (.array [
        (wordJson s.id).reading,
        s.address.json.reading,
        (byteJson s.priority).reading,
        (Value.optional byteJson s.backupPriority).reading,
        (Value.strings names).reading,
        (Value.optional .string s.lastEvent).reading] none)

variable {s : IpState}

theorem backupPriority_reading (s : IpState) :
    Json.Decoder.nullable byteDecoder depth
      (Value.optional byteJson s.backupPriority).reading = .ok s.backupPriority :=
  nullable_reading byteDecoder_reading reading_byteJson_ne_null s.backupPriority

theorem lastEvent_reading (s : IpState) :
    Json.Decoder.nullable .text depth (Value.optional .string s.lastEvent).reading =
      .ok s.lastEvent :=
  nullable_reading text_reading reading_string_ne_null s.lastEvent

theorem Stands.reads (hdepth : 0 < depth) (h : s.Stands found) :
    shape.Reads (depth + 1) found s := by
  obtain ⟨names, hnames, hzones⟩ := h.listedZones
  have hset : ZoneSet.decoder (depth + 1) (Value.strings names).reading = .ok s.listedZones :=
    hnames ▸ ZoneSet.decoder_strings hdepth names
  exact Shape.Reads.pure IpState.mk
    |>.seq (.field h.id (wordDecoder_reading s.id))
    |>.seq (.field h.address s.address.decoder_reading)
    |>.seq (.field h.priority (byteDecoder_reading s.priority))
    |>.seq (.orDefault s.backupPriority_reading h.backupPriority)
    |>.seq (.orDefault hset hzones)
    |>.seq (.orDefault s.lastEvent_reading h.lastEvent)

theorem decoder_of_writtenAs (hdepth : 0 < depth) (h : s.WrittenAs r) :
    decoder (depth + 2) r = .ok s := by
  cases h with
  | object hopens hstands =>
    exact Shape.decoder_object (Nat.succ_pos depth) hopens (hstands.reads hdepth)
  | @array names hnames =>
    have hset : ZoneSet.decoder (depth + 1) (Value.strings names).reading = .ok s.listedZones :=
      hnames ▸ ZoneSet.decoder_strings hdepth names
    refine Shape.decoder_array (Nat.succ_pos depth) ?_
    exact Shape.Takes.pure IpState.mk
      |>.seq (.field (wordDecoder_reading s.id))
      |>.seq (.field s.address.decoder_reading)
      |>.seq (.field (byteDecoder_reading s.priority))
      |>.seq (.field s.backupPriority_reading)
      |>.seq (.field hset)
      |>.seq (.field s.lastEvent_reading)

theorem writtenAs_reading (s : IpState) : s.WrittenAs s.json.reading := by
  refine .object (Shape.opens_written rfl (by decide)) ?_
  exact ⟨rfl, rfl, rfl, .inl rfl, ⟨_, s.listedZones.ofList_toList, .inl rfl⟩, .inl rfl⟩

end IpState

/-! ## Transitions -/

namespace ZoneDelta

/-- The trees of the forms in which the difference may be written. -/
inductive WrittenAs (d : ZoneDelta) : Reading → Prop
  | object {members : List (StringText × Reading)} {ms : Members} :
      shape.Opens members ms → ms.get? "added" = some (Value.strings d.added).reading →
      ms.get? "removed" = some (Value.strings d.removed).reading →
      d.WrittenAs (.object members none)
  | array : d.WrittenAs
      (.array [(Value.strings d.added).reading, (Value.strings d.removed).reading] none)

variable {d : ZoneDelta}

theorem decoder_of_writtenAs (hdepth : 0 < depth) (h : d.WrittenAs r) :
    decoder (depth + 2) r = .ok d := by
  have hadded := stringsDecoder_reading hdepth d.added
  have hremoved := stringsDecoder_reading hdepth d.removed
  cases h with
  | object hopens hadd hremove =>
    refine Shape.decoder_object (Nat.succ_pos depth) hopens ?_
    exact Shape.Reads.pure ZoneDelta.mk |>.seq (.field hadd hadded) |>.seq (.field hremove hremoved)
  | array =>
    refine Shape.decoder_array (Nat.succ_pos depth) ?_
    exact Shape.Takes.pure ZoneDelta.mk |>.seq (.field hadded) |>.seq (.field hremoved)

theorem writtenAs_reading (d : ZoneDelta) : d.WrittenAs d.json.reading :=
  .object (Shape.opens_written rfl (by decide)) rfl rfl

end ZoneDelta

namespace Transition

/-- What stands under the names of the fields is the transition. -/
structure Stands (found : String → Option Reading) (t : Transition) : Prop where
  ip : found "ip" = some t.ip.json.reading
  previous : found "previous_state" = some t.previous.json.reading
  next : found "new_state" = some t.next.json.reading
  listedZones : found "listed_zones" = some (Value.strings t.listedZones).reading
  unknownZones : found "unknown_zones" = some (Value.strings t.unknownZones).reading ∨
    found "unknown_zones" = none ∧ t.unknownZones = []
  delta : ∃ tree, t.delta.WrittenAs tree ∧ found "zone_delta" = some tree
  requiresUpdate : found "requires_update" = some (.bool t.requiresUpdate)

/-- The trees of the forms in which the transition may be written. -/
inductive WrittenAs (t : Transition) : Reading → Prop
  | object {members : List (StringText × Reading)} {ms : Members} :
      shape.Opens members ms → t.Stands ms.get? → t.WrittenAs (.object members none)
  | array {delta : Reading} :
      t.delta.WrittenAs delta →
      t.WrittenAs (.array [
        t.ip.json.reading,
        t.previous.json.reading,
        t.next.json.reading,
        (Value.strings t.listedZones).reading,
        (Value.strings t.unknownZones).reading,
        delta,
        .bool t.requiresUpdate] none)

variable {t : Transition}

theorem Stands.reads (hdepth : 0 < depth) (h : t.Stands found) :
    shape.Reads (depth + 2) found t := by
  have hstrings := stringsDecoder_reading (Nat.succ_pos depth)
  obtain ⟨tree, htree, hdelta⟩ := h.delta
  exact Shape.Reads.pure Transition.mk
    |>.seq (.field h.ip t.ip.decoder_reading)
    |>.seq (.field h.previous t.previous.decoder_reading)
    |>.seq (.field h.next t.next.decoder_reading)
    |>.seq (.field h.listedZones (hstrings t.listedZones))
    |>.seq (.orDefault (hstrings t.unknownZones) h.unknownZones)
    |>.seq (.field hdelta (ZoneDelta.decoder_of_writtenAs hdepth htree))
    |>.seq (.field h.requiresUpdate rfl)

theorem decoder_of_writtenAs (hdepth : 0 < depth) (h : t.WrittenAs r) :
    decoder (depth + 3) r = .ok t := by
  cases h with
  | object hopens hstands =>
    exact Shape.decoder_object (Nat.succ_pos (depth + 1)) hopens (hstands.reads hdepth)
  | array hdelta =>
    have hstrings := stringsDecoder_reading (Nat.succ_pos depth)
    refine Shape.decoder_array (Nat.succ_pos (depth + 1)) ?_
    exact Shape.Takes.pure Transition.mk
      |>.seq (.field t.ip.decoder_reading)
      |>.seq (.field t.previous.decoder_reading)
      |>.seq (.field t.next.decoder_reading)
      |>.seq (.field (hstrings t.listedZones))
      |>.seq (.field (hstrings t.unknownZones))
      |>.seq (.field (ZoneDelta.decoder_of_writtenAs hdepth hdelta))
      |>.seq (.field rfl)

theorem writtenAs_reading (t : Transition) : t.WrittenAs t.json.reading := by
  refine .object (Shape.opens_written rfl (by decide)) ?_
  exact ⟨rfl, rfl, rfl, rfl, .inl rfl, ⟨_, t.delta.writtenAs_reading, rfl⟩, rfl⟩

end Transition

/-! ## Whole texts -/

/-- States and transitions are decoded from their own texts, and from any text whose tree is one of
the forms in which they may be written. And whatever text one was decoded from, the text that is
written of it is decoded to the same value again, of which the same text is written. -/
theorem states_and_transitions_survive :
    (∀ s : IpState, IpState.decoder.run s.json.compact = .ok s) ∧
      (∀ t : Transition, Transition.decoder.run t.json.compact = .ok t) ∧
      (∀ text tree (s : IpState), Reading.ofString text = (tree, false) → s.WrittenAs tree →
        IpState.decoder.run text = .ok s) ∧
      (∀ text tree (t : Transition), Reading.ofString text = (tree, false) → t.WrittenAs tree →
        Transition.decoder.run text = .ok t) ∧
      (∀ text (s : IpState), IpState.decoder.run text = .ok s →
        ∃ again, IpState.decoder.run s.json.compact = .ok again ∧ again = s ∧
          again.json.compact = s.json.compact) ∧
      (∀ text (t : Transition), Transition.decoder.run text = .ok t →
        ∃ again, Transition.decoder.run t.json.compact = .ok again ∧ again = t ∧
          again.json.compact = t.json.compact) := by
  have hstate : ∀ text tree (s : IpState), Reading.ofString text = (tree, false) →
      s.WrittenAs tree → IpState.decoder.run text = .ok s := by
    intro text tree s htree hform
    rw [Json.Decoder.run_eq_ok, htree]
    exact ⟨IpState.decoder_of_writtenAs (by decide) hform, rfl⟩
  have htransition : ∀ text tree (t : Transition), Reading.ofString text = (tree, false) →
      t.WrittenAs tree → Transition.decoder.run text = .ok t := by
    intro text tree t htree hform
    rw [Json.Decoder.run_eq_ok, htree]
    exact ⟨Transition.decoder_of_writtenAs (by decide) hform, rfl⟩
  have hstates : ∀ s : IpState, IpState.decoder.run s.json.compact = .ok s := fun s =>
    hstate _ _ s (Reading.ofString_compact s.json) s.writtenAs_reading
  have htransitions : ∀ t : Transition, Transition.decoder.run t.json.compact = .ok t := fun t =>
    htransition _ _ t (Reading.ofString_compact t.json) t.writtenAs_reading
  exact ⟨hstates, htransitions, hstate, htransition, fun _ s _ => ⟨s, hstates s, rfl, rfl⟩,
    fun _ t _ => ⟨t, htransitions t, rfl, rfl⟩⟩

set_option maxRecDepth 20000 in
/-- A state with its fields in another order, a foreign field, no backup priority, and its zones out
of order and repeated; and a transition in the form of an array. -/
theorem states_and_transitions_survive_otherForms :
    let stateText := "\x7b\"note\":[null],\"listed_zones\":[\"b\",\"a\",\"b\"],\"priority\":7," ++
      "\"last_event\":\"\\u0001\\\"\",\"address\":\"192.0.2.9\",\"id\":18446744073709551615\x7d"
    let s : IpState :=
      ⟨18446744073709551615, ⟨192, 0, 2, 9⟩, 7, none, .ofList ["a", "b"], some "\x01\""⟩
    let transitionText := "[\"192.0.2.9\",\"CLEAN\",\"LISTED\",[\"z\"],[],[[\"z\"],[]],true]"
    let t : Transition := ⟨⟨192, 0, 2, 9⟩, .clean, .listed, ["z"], [], ⟨["z"], []⟩, true⟩
    (IpState.decoder.run stateText = .ok s ∧ IpState.decoder.run s.json.compact = .ok s) ∧
      Transition.decoder.run transitionText = .ok t ∧
      Transition.decoder.run t.json.compact = .ok t := by
  intro stateText s transitionText t
  let ms : Members := [
    ("note", .array [.null] none),
    ("listed_zones", (Value.strings ["b", "a", "b"]).reading),
    ("priority", (byteJson 7).reading),
    ("last_event", (Value.string "\x01\"").reading),
    ("address", (Ipv4.json ⟨192, 0, 2, 9⟩).reading),
    ("id", (wordJson 18446744073709551615).reading)]
  have hstateTree : Reading.ofString stateText =
      (.object (ms.map fun m => (.ofString m.1, m.2)) none, false) := by
    have hcompact : stateText = (Value.object [
        ("note", .array [.null]),
        ("listed_zones", .strings ["b", "a", "b"]),
        ("priority", byteJson 7),
        ("last_event", .string "\x01\""),
        ("address", Ipv4.json ⟨192, 0, 2, 9⟩),
        ("id", wordJson 18446744073709551615)]).compact := by
      decide +kernel
    rw [hcompact, Reading.ofString_compact]
    rfl
  have hopens : IpState.shape.Opens (ms.map fun m => (.ofString m.1, m.2)) ms :=
    ⟨Shape.spells_ofString ms, by decide, by decide⟩
  have hstands : s.Stands ms.get? :=
    ⟨rfl, rfl, rfl, .inr ⟨rfl, rfl⟩, ⟨["b", "a", "b"], by decide, .inl rfl⟩, .inl rfl⟩
  have htransitionTree : Reading.ofString transitionText =
      (.array [
        (Ipv4.json ⟨192, 0, 2, 9⟩).reading,
        ListingState.clean.json.reading,
        ListingState.listed.json.reading,
        (Value.strings ["z"]).reading,
        (Value.strings []).reading,
        .array [(Value.strings ["z"]).reading, (Value.strings []).reading] none,
        .bool true] none, false) := by
    have hcompact : transitionText = (Value.array [
        Ipv4.json ⟨192, 0, 2, 9⟩, ListingState.clean.json, ListingState.listed.json,
        .strings ["z"], .strings [], .array [.strings ["z"], .strings []],
        .bool true]).compact := by
      decide +kernel
    rw [hcompact, Reading.ofString_compact]
    rfl
  obtain ⟨-, -, hstate, htransition, hstateAgain, htransitionAgain⟩ :=
    states_and_transitions_survive
  have hs : IpState.decoder.run stateText = .ok s :=
    hstate _ _ s hstateTree (.object hopens hstands)
  have ht : Transition.decoder.run transitionText = .ok t :=
    htransition _ _ t htransitionTree (.array .array)
  obtain ⟨_, hsame, rfl, -⟩ := hstateAgain _ _ hs
  obtain ⟨_, htame, rfl, -⟩ := htransitionAgain _ _ ht
  exact ⟨⟨hs, hsame⟩, ht, htame⟩

end BlocklistWatch
