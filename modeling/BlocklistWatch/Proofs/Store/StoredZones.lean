import BlocklistWatch.Proofs.Store.Update

/-!
# The stored text stands for the set

A decision compares sets of zones, a row compares their stored texts. Both come to the same: a set
has one stored text in whatever way it was built, the text is read back as the set, and any other
text that a row holds is read as some set with such a text.

* `ZoneSet.ofStored_stored_ofStored`: what was read from a text is read again from what is written
  of it.
* `ZoneSet.build` is a set that was built from a list and from single names, in any order and with
  repetitions; `ZoneSet.build_eq_iff` says when two such sets are one.
* `Row.stored_zones_canonical` puts this together with the updates of rows.
-/

namespace BlocklistWatch

namespace ZoneSet

theorem ofStored_stored_ofStored (text : String) :
    ofStored (ofStored text).stored = ofStored text :=
  ofStored_stored (storable_ofStored text)

/-! ## Sets that were built in steps -/

/-- The set of a list of names, with further names put in one after another. -/
def build (given added : List String) : ZoneSet :=
  added.foldl insert (ofList given)

theorem mem_foldl_insert {added : List String} {s : ZoneSet} {z : String} :
    z ∈ added.foldl insert s ↔ z ∈ s ∨ z ∈ added := by
  induction added generalizing s with
  | nil => simp
  | cons x added ih =>
    rw [List.foldl_cons, ih, mem_insert, List.mem_cons]
    constructor
    · rintro ((hx | hs) | hadded)
      · exact .inr (.inl hx)
      · exact .inl hs
      · exact .inr (.inr hadded)
    · rintro (hs | hx | hadded)
      · exact .inl (.inr hs)
      · exact .inl (.inl hx)
      · exact .inr hadded

variable {given added given' added' : List String} {z : String}

@[simp] theorem mem_build : z ∈ build given added ↔ z ∈ given ++ added := by
  rw [build, mem_foldl_insert, mem_ofList, List.mem_append]

theorem build_eq_iff :
    build given added = build given' added' ↔ ∀ z, z ∈ given ++ added ↔ z ∈ given' ++ added' := by
  constructor
  · intro h z
    rw [← mem_build, h, mem_build]
  · intro h
    refine ext_mem fun z => ?_
    rw [mem_build, mem_build]
    exact h z

theorem storable_build (h : ∀ z ∈ given ++ added, ZoneName.Storable z) :
    (build given added).Storable :=
  fun z hz => h z (mem_build.1 hz)

end ZoneSet

/-! ## Texts, sets and rows -/

/-- Writing and reading once more changes nothing about what was read from a text. Sets that can be
stored have the same text just if they are the same, in whatever way they were built, and are read
back from it. So an update of a row is skipped just if the row records the zones of the transition
already. -/
theorem Row.stored_zones_canonical :
    (∀ text, ZoneSet.ofStored (ZoneSet.ofStored text).stored = ZoneSet.ofStored text ∧
      ∀ z ∈ ZoneSet.ofStored text, z ≠ "" ∧ ',' ∉ z.toList ∧ Text.trim z = z) ∧
    (∀ s t : ZoneSet, s.Storable → t.Storable →
      (s.stored = t.stored ↔ s = t) ∧ ZoneSet.ofStored s.stored = s) ∧
    (∀ given added given' added',
      (∀ z ∈ given ++ added, ZoneName.Storable z) →
      (∀ z ∈ given' ++ added', ZoneName.Storable z) →
      ((ZoneSet.build given added).stored = (ZoneSet.build given' added').stored ↔
        ∀ z, z ∈ given ++ added ↔ z ∈ given' ++ added')) ∧
    ∀ (r : Row) (t : Transition) (policy : PriorityPolicy),
      (∀ z ∈ t.listedZones, ZoneName.Storable z) →
      (r.update? t policy = none ↔ r.zones = ZoneSet.ofList t.listedZones) := by
  refine ⟨fun text => ⟨ZoneSet.ofStored_stored_ofStored text, fun z hz => ?_⟩,
    fun s t hs ht => ⟨ZoneSet.stored_eq_iff hs ht, ZoneSet.ofStored_stored hs⟩,
    fun given added given' added' hnames hnames' => ?_, fun r t policy hzones => ?_⟩
  · obtain ⟨hne, htrim, hcomma⟩ := ZoneSet.storable_ofStored text z hz
    exact ⟨hne, hcomma, htrim⟩
  · rw [ZoneSet.stored_eq_iff (ZoneSet.storable_build hnames) (ZoneSet.storable_build hnames'),
      ZoneSet.build_eq_iff]
  · exact Row.update?_eq_none_iff fun z hz => hzones z (ZoneSet.mem_ofList.1 hz)

/-- A text with blanks, gaps and a repeated name; the same zones put in one by one; and a row with
that text under a transition to the zones, and under one to a zone less. -/
theorem Row.stored_zones_canonical_untidy :
    let text := " b.example,\u2003a.example,, \t,b.example"
    let zones := ZoneSet.build [] ["b.example", "a.example"]
    let r : Row := ⟨1, "192.0.2.1", some 70, some 100, some text, none, []⟩
    let listed := ["b.example", "a.example", "b.example"]
    let t : Transition := ⟨⟨192, 0, 2, 1⟩, .listed, .listed, listed, [], ⟨[], []⟩, true⟩
    let fewer : Transition := { t with listedZones := ["a.example"] }
    ZoneSet.ofStored (ZoneSet.ofStored text).stored = ZoneSet.ofStored text ∧
      "a.example" ∈ ZoneSet.ofStored text ∧ Text.trim "a.example" = "a.example" ∧
      zones.stored = (ZoneSet.build ["a.example", "a.example"] ["b.example"]).stored ∧
      ZoneSet.ofStored zones.stored = zones ∧
      r.update? t .standard = none ∧ r.update? fewer .standard ≠ none := by
  intro text zones r listed t fewer
  obtain ⟨htext, hsets, hbuilt, hrows⟩ := Row.stored_zones_canonical
  have hmem : "a.example" ∈ ZoneSet.ofStored text := by decide +kernel
  have hzones : zones.Storable := by decide +kernel
  have hsame : r.zones = ZoneSet.ofList t.listedZones := by decide +kernel
  have hdiffer : r.zones ≠ ZoneSet.ofList fewer.listedZones := by decide +kernel
  refine ⟨(htext text).1, hmem, ((htext text).2 _ hmem).2.2, ?_,
    (hsets zones zones hzones hzones).2, (hrows r t .standard (by decide +kernel)).2 hsame,
    fun hskip => hdiffer ((hrows r fewer .standard (by decide +kernel)).1 hskip)⟩
  refine (hbuilt _ _ _ _ (by decide +kernel) (by decide +kernel)).2 fun z => ?_
  simp [or_comm]

end BlocklistWatch
