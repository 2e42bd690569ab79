import BlocklistWatch.Coding.Health
import BlocklistWatch.Probe.Reference
import BlocklistWatch.Proofs.Coding.Basic
import BlocklistWatch.Proofs.Json.Fields

/-!
# When reachability is told as a whole

A check of the outside asks both resolvers, and a check that was not made asks neither. So what came
of it names both or neither, and nobody answered just if both are known not to have. A run produces
no other values; a text can, because its fields are decoded one by one.

* `Connectivity.Consistent` is the condition; `Connectivity.consistent_iff` says that the values of
  a run are those that meet it.
* `Connectivity.of_decoder` says which value a tree is decoded to: what it tells of each field.
* `Connectivity.Source` has every way in which a value is obtained, and
  `Connectivity.obtained_consistent` says of which of them a consistent one comes.
* `Connectivity.decoded_unasked`: a text that is decoded to a check without answers.
-/

namespace BlocklistWatch

open Json (Decoder Fault Reading Shape StringText Value)

/-- What a tree tells of a yes-or-no field, if anything. -/
def Json.Reading.answer? (name : String) (place : Nat) (tree : Reading) : Option Bool :=
  match tree.field? name place with
  | some (.bool b) => some b
  | _ => none

namespace Connectivity

/-- Both resolvers are known to be reachable or not if the check was made, and neither if not. -/
structure Consistent (c : Connectivity) : Prop where
  cloudflare : c.cloudflare.isSome = c.enabled
  google : c.google.isSome = c.enabled

theorem consistent_skipped : skipped.Consistent :=
  ⟨rfl, rfl⟩

theorem consistent_ofCheck (cloudflare google : Bool) : (ofCheck cloudflare google).Consistent :=
  ⟨rfl, rfl⟩

theorem consistent_iff {c : Connectivity} :
    c.Consistent ↔ c = skipped ∨ ∃ cloudflare google, c = ofCheck cloudflare google := by
  constructor
  · rintro ⟨hcloudflare, hgoogle⟩
    obtain ⟨enabled, cloudflare, google⟩ := c
    cases enabled with
    | false =>
      left
      rw [Option.isSome_eq_false_iff, Option.isNone_iff_eq_none] at hcloudflare hgoogle
      dsimp only at hcloudflare hgoogle
      rw [hcloudflare, hgoogle]
      rfl
    | true =>
      right
      obtain ⟨a, ha⟩ := Option.isSome_iff_exists.1 hcloudflare
      obtain ⟨b, hb⟩ := Option.isSome_iff_exists.1 hgoogle
      dsimp only at ha hb
      rw [ha, hb]
      exact ⟨a, b, rfl⟩
  · rintro (rfl | ⟨cloudflare, google, rfl⟩)
    · exact consistent_skipped
    · exact consistent_ofCheck cloudflare google

theorem Consistent.allUnreachable_iff {c : Connectivity} (h : c.Consistent) :
    c.allUnreachable = true ↔ c.cloudflare = some false ∧ c.google = some false := by
  rcases consistent_iff.1 h with rfl | ⟨cloudflare, google, rfl⟩
  · refine iff_of_false Bool.false_ne_true fun hboth => ?_
    cases hboth.1
  · rw [allUnreachable_ofCheck, Bool.and_eq_true, Bool.not_eq_true', Bool.not_eq_true', ofCheck,
      Option.some.injEq, Option.some.injEq]

/-! ## Decoded values -/

variable {depth : Nat} {tree : Reading} {c : Connectivity}

/-- The tree tells of both resolvers whether they are reachable if it tells that the check was made,
and of neither if not. -/
structure Balanced (tree : Reading) : Prop where
  cloudflare : (tree.answer? "cloudflare_reachable" 1).isSome =
    (tree.answer? "check_enabled" 0 == some true)
  google : (tree.answer? "google_reachable" 2).isSome =
    (tree.answer? "check_enabled" 0 == some true)

/-- The value is what the tree tells of each field. -/
structure ToldBy (c : Connectivity) (tree : Reading) : Prop where
  enabled : tree.answer? "check_enabled" 0 = some c.enabled
  cloudflare : tree.answer? "cloudflare_reachable" 1 = c.cloudflare
  google : tree.answer? "google_reachable" 2 = c.google

theorem answer?_of_bool {name : String} {place : Nat} {r : Reading} {b : Bool}
    (hfield : tree.field? name place = some r) (hr : Decoder.bool depth r = .ok b) :
    tree.answer? name place = some b := by
  rw [Reading.answer?, hfield, Decoder.of_bool hr]

theorem answer?_of_nullable {name : String} {place : Nat} {r : Reading} {o : Option Bool}
    (hfield : tree.field? name place = some r) (hr : Decoder.nullable .bool depth r = .ok o) :
    tree.answer? name place = o := by
  rcases Decoder.of_nullable hr with ⟨rfl, rfl⟩ | ⟨b, hb, rfl⟩
  · rw [Reading.answer?, hfield]
  · exact answer?_of_bool hfield hb

theorem answer?_of_none {name : String} {place : Nat} (hfield : tree.field? name place = none) :
    tree.answer? name place = none := by
  rw [Reading.answer?, hfield]

theorem of_decoder_object {members : List (StringText × Reading)} {stop : Option Fault}
    (h : decoder depth (.object members stop) = .ok c) : c.ToldBy (.object members stop) := by
  obtain ⟨inner, ms, hmade, hfound⟩ := Shape.of_decoder_object h
  obtain ⟨f, hf, google, hgoogle, rfl⟩ := Shape.seq_ofMembers_eq_ok.1 hmade
  obtain ⟨g, hg, cloudflare, hcloudflare, rfl⟩ := Shape.seq_ofMembers_eq_ok.1 hf
  obtain ⟨k, hk, enabled, henabled, rfl⟩ := Shape.seq_ofMembers_eq_ok.1 hg
  obtain rfl : mk = k := Except.ok.inj hk
  have hnullable : ∀ name ∈ shape.names, ∀ place o,
      (Shape.nullable name .bool).ofMembers inner ms = .ok o →
      (Reading.object members stop).answer? name place = o := by
    intro name hname place o ho
    rcases Shape.of_fieldWith_ofMembers ho with ⟨r, hget, hr⟩ | ⟨hget, habsent⟩
    · exact answer?_of_nullable (by rw [← hfound name hname, hget]) hr
    · rw [← Except.ok.inj habsent]
      exact answer?_of_none (by rw [← hfound name hname, hget])
  refine ⟨?_, hnullable _ (by decide) 1 _ hcloudflare, hnullable _ (by decide) 2 _ hgoogle⟩
  rcases Shape.of_fieldWith_ofMembers henabled with ⟨r, hget, hr⟩ | ⟨-, hmissing⟩
  · exact answer?_of_bool (by rw [← hfound _ (by decide), hget]) hr
  · cases hmissing

theorem of_decoder_array {items : List Reading} {stop : Option Fault}
    (h : decoder depth (.array items stop) = .ok c) : c.ToldBy (.array items stop) := by
  obtain ⟨inner, expected, last, htaken⟩ := Shape.of_decoder_array h
  obtain ⟨f, _, _, hf, google, hgoogle, rfl⟩ := Shape.seq_ofItems_eq_ok.1 htaken
  obtain ⟨g, _, _, hg, cloudflare, hcloudflare, rfl⟩ := Shape.seq_ofItems_eq_ok.1 hf
  obtain ⟨k, _, _, hk, enabled, henabled, rfl⟩ := Shape.seq_ofItems_eq_ok.1 hg
  obtain ⟨rfl, -, rfl⟩ : mk = k ∧ _ ∧ items = _ := by
    simpa only [Prod.mk.injEq] using Except.ok.inj hk
  obtain ⟨first, rfl, hfirst⟩ := Shape.of_fieldWith_ofItems henabled
  obtain ⟨second, rfl, hsecond⟩ := Shape.of_fieldWith_ofItems hcloudflare
  obtain ⟨third, rfl, hthird⟩ := Shape.of_fieldWith_ofItems hgoogle
  exact ⟨answer?_of_bool rfl hfirst, answer?_of_nullable rfl hsecond,
    answer?_of_nullable rfl hthird⟩

theorem of_decoder (h : decoder depth tree = .ok c) : c.ToldBy tree := by
  rcases Shape.object_or_array_of_decoder h with ⟨members, stop, rfl⟩ | ⟨items, stop, rfl⟩
  · exact of_decoder_object h
  · exact of_decoder_array h

/-- What is decoded from a tree is consistent just if the tree is balanced. -/
theorem ToldBy.consistent_iff (h : c.ToldBy tree) : c.Consistent ↔ Balanced tree := by
  have hmade : (tree.answer? "check_enabled" 0 == some true) = c.enabled := by
    rw [h.enabled]
    cases c.enabled <;> rfl
  constructor
  · rintro ⟨hcloudflare, hgoogle⟩
    exact ⟨by rw [h.cloudflare, hmade, hcloudflare], by rw [h.google, hmade, hgoogle]⟩
  · rintro ⟨hcloudflare, hgoogle⟩
    rw [h.cloudflare, hmade] at hcloudflare
    rw [h.google, hmade] at hgoogle
    exact ⟨hcloudflare, hgoogle⟩

/-! ## Written values -/

theorem decoder_json (c : Connectivity) : decoder.run c.json.compact = .ok c := by
  have hnullable : ∀ depth o,
      Decoder.nullable .bool depth (Value.optional .bool o).reading = .ok o :=
    fun _ => nullable_reading (fun _ => rfl) fun _ => nofun
  have hreads : shape.Reads 127 (Shape.written [
      ("check_enabled", .bool c.enabled),
      ("cloudflare_reachable", .optional .bool c.cloudflare),
      ("google_reachable", .optional .bool c.google)]).get? c :=
    Shape.Reads.pure mk
      |>.seq (.field rfl rfl)
      |>.seq (.field rfl (hnullable _ _))
      |>.seq (.field rfl (hnullable _ _))
  rw [Decoder.run_eq_ok, Reading.ofString_compact]
  exact ⟨Shape.decoder_object (by decide) (Shape.opens_written rfl (by decide)) hreads, rfl⟩

/-! ## Every way to a value -/

/-- The two forms that a run produces, a check by two look-ups, and a text to be decoded. -/
inductive Source where
  | skipped
  | answers (cloudflare google : Bool)
  | check (cloudflare google : Lookup) (timeout : Nat)
  | text (s : String)

/-- The value that comes of it. Of a text none may come. -/
def Source.value : Source → Except Json.DecodeError Connectivity
  | .skipped => .ok Connectivity.skipped
  | .answers cloudflare google => .ok (ofCheck cloudflare google)
  | .check cloudflare google timeout => .ok (checkConnectivity cloudflare google timeout)
  | .text s => decoder.run s

/-- What is asked of a source: nothing but of a text, which can tell anything. -/
def Source.Sound : Source → Prop
  | .text s => Balanced (Reading.ofString s).1
  | _ => True

variable {source : Source}

theorem Source.consistent_iff_sound (h : source.value = .ok c) : c.Consistent ↔ source.Sound := by
  cases source with
  | skipped =>
    rw [← Except.ok.inj h]
    exact iff_of_true consistent_skipped trivial
  | answers cloudflare google =>
    rw [← Except.ok.inj h]
    exact iff_of_true (consistent_ofCheck cloudflare google) trivial
  | check cloudflare google timeout =>
    rw [← Except.ok.inj h]
    exact iff_of_true (consistent_ofCheck _ _) trivial
  | text s => exact (of_decoder (Decoder.run_eq_ok.1 h).1).consistent_iff

/-- A value is consistent just if it does not come of a text that is not balanced. Nobody answered
just if both resolvers are known not to be reachable, as long as the value is consistent. Written
down, any value is a text of which it comes again. -/
theorem obtained_consistent (source : Source) {c : Connectivity} (h : source.value = .ok c) :
    (c.Consistent ↔ source.Sound) ∧
      (source.Sound →
        (c.allUnreachable = true ↔ c.cloudflare = some false ∧ c.google = some false)) ∧
      (Source.text c.json.compact).value = .ok c := by
  have hsound : c.Consistent ↔ source.Sound := Source.consistent_iff_sound h
  exact ⟨hsound, fun hs => (hsound.2 hs).allUnreachable_iff, decoder_json c⟩

/-- A text with its fields in another order and a foreign one between them, one in the form of an
array, and a check of resolvers of which one stays silent and the other answers too late. -/
theorem obtained_consistent_otherForms :
    let unordered := "\x7b\"google_reachable\":false,\"note\":[\x7b\"check_enabled\":null\x7d]," ++
      "\"check_enabled\":true,\"cloudflare_reachable\":false\x7d"
    let silent : Lookup := fun _ => .silence
    let late : Lookup := fun _ => .answer (.addresses [⟨192, 0, 2, 1⟩]) 21
    (∃ c, (Source.text unordered).value = .ok c ∧ c.Consistent ∧ c.allUnreachable = true) ∧
      (∃ c, (Source.text "[false, null, null]").value = .ok c ∧ c.Consistent ∧
        c.allUnreachable = false) ∧
      ∃ c, (Source.check silent late 20).value = .ok c ∧ c.Consistent ∧
        c.allUnreachable = true := by
  intro unordered silent late
  have hunordered : (Source.text unordered).value = .ok ⟨true, some false, some false⟩ := by
    decide +kernel
  have harray : (Source.text "[false, null, null]").value = .ok ⟨false, none, none⟩ := by
    decide +kernel
  obtain ⟨hfirst, hnobody, -⟩ := obtained_consistent (.text unordered) hunordered
  obtain ⟨hsecond, -, -⟩ := obtained_consistent (.text "[false, null, null]") harray
  obtain ⟨hthird, hneither, -⟩ := obtained_consistent (.check silent late 20) rfl
  have htold : Source.Sound (.text unordered) := ⟨by decide +kernel, by decide +kernel⟩
  exact ⟨⟨_, hunordered, hfirst.2 htold, (hnobody htold).2 ⟨rfl, rfl⟩⟩,
    ⟨_, harray, hsecond.2 ⟨by decide +kernel, by decide +kernel⟩, rfl⟩,
    ⟨_, rfl, hthird.2 trivial, (hneither trivial).2 ⟨rfl, rfl⟩⟩⟩

/-- A text that says that the check was made and nothing else is decoded, to a value that passes for
a check that nobody answered. -/
theorem decoded_unasked :
    let c : Connectivity := ⟨true, none, none⟩
    (Source.text "\x7b\"check_enabled\":true\x7d").value = .ok c ∧ ¬ c.Consistent ∧
      c.allUnreachable = true ∧ ¬ (c.cloudflare = some false ∧ c.google = some false) := by
  intro c
  have hdecoded : (Source.text "\x7b\"check_enabled\":true\x7d").value = .ok c := by
    decide +kernel
  refine ⟨hdecoded, fun h => ?_, rfl, fun h => ?_⟩
  · exact Bool.noConfusion h.cloudflare
  · cases h.1

end Connectivity

end BlocklistWatch
