import Mathlib.Data.List.Forall2
import Mathlib.Order.BooleanAlgebra.Set
import BlocklistWatch.Proofs.Decision

/-!
# What a decision rests on

A decision compares two sets of zones, those that are recorded about an address and those that say
yes now. Results of one zone may be repeated and may contradict each other; nothing counts but which
results there are, and those that say no do not count at all.

* `ZoneSet.members` and `Observation.zonesOf` are the two sides as sets.
* `Transition.Leads` says by set operations alone what a transition from one set to another is, and
  `IpState.leads_transition` that the decided one is such.
* `Observation.evidence` is what counts of the results, `Observation.Settles` turns results that say
  nothing into such that say no.
* `IpState.decide_by_sets` is the whole decision.
-/

namespace BlocklistWatch

/-! ## Both sides as sets -/

namespace ZoneSet

variable {s t : ZoneSet}

def members (s : ZoneSet) : Set String :=
  {z | z ∈ s}

theorem members_inj : s.members = t.members ↔ s = t :=
  ⟨fun h => ext_mem fun z => Set.ext_iff.1 h z, fun h => h ▸ rfl⟩

theorem members_eq_empty_iff : s.members = ∅ ↔ s.isEmpty = true := by
  rw [isEmpty_iff, Set.eq_empty_iff_forall_notMem, List.eq_nil_iff_forall_not_mem]
  rfl

theorem setOf_mem_difference (s t : ZoneSet) :
    {z | z ∈ s.difference t} = s.members \ t.members :=
  Set.ext fun _ => mem_difference

theorem pairwise_difference (s t : ZoneSet) : (s.difference t).Pairwise (· < ·) :=
  s.increasing.filter _

end ZoneSet

namespace Observation

variable {seen seen' : List Observation}

/-- The zones of which some result has the status. -/
def zonesOf (status : ProbeStatus) (seen : List Observation) : Set String :=
  {z | ⟨z, status⟩ ∈ seen}

theorem members_zonesWith (status : ProbeStatus) (seen : List Observation) :
    (zonesWith status seen).members = zonesOf status seen :=
  Set.ext fun _ => mem_zonesWith

theorem zonesWith_eq_iff {status : ProbeStatus} :
    zonesWith status seen = zonesWith status seen' ↔ zonesOf status seen = zonesOf status seen' := by
  rw [← ZoneSet.members_inj, members_zonesWith, members_zonesWith]

end Observation

/-! ## Transitions by sets -/

theorem ListingState.ofZones_eq_clean_iff {zones : ZoneSet} :
    ListingState.ofZones zones = .clean ↔ zones.members = ∅ := by
  rw [ZoneSet.members_eq_empty_iff, ListingState.ofZones]
  by_cases hempty : zones.isEmpty = true
  · simp [hempty]
  · simp [hempty]

namespace TransitionKind

variable {before now : ZoneSet}

theorem between_eq_firstListing_iff : between before now = .firstListing ↔ before.members = ∅ := by
  rw [ZoneSet.members_eq_empty_iff, between]
  split
  · next h => simp [h]
  · next h => split <;> simp [h]

theorem between_eq_recovery_iff :
    between before now = .recovery ↔ before.members ≠ ∅ ∧ now.members = ∅ := by
  rw [Ne, ZoneSet.members_eq_empty_iff, ZoneSet.members_eq_empty_iff, between]
  split
  · next h => simp [h]
  · next h => split <;> simp [*]

theorem between_eq_zoneChange_iff :
    between before now = .zoneChange ↔ before.members ≠ ∅ ∧ now.members ≠ ∅ := by
  rw [Ne, Ne, ZoneSet.members_eq_empty_iff, ZoneSet.members_eq_empty_iff, between]
  split
  · next h => simp [h]
  · next h => split <;> simp [*]

end TransitionKind

/-- A transition from the zones that listed an address before to those that list it now, while the
silent ones left it open. -/
structure Transition.Leads (before now silent : Set String) (t : Transition) : Prop where
  listed : {z | z ∈ t.listedZones} = now
  unknown : {z | z ∈ t.unknownZones} = silent
  added : {z | z ∈ t.delta.added} = now \ before
  removed : {z | z ∈ t.delta.removed} = before \ now
  increasing : ∀ zones ∈ [t.listedZones, t.unknownZones, t.delta.added, t.delta.removed],
    zones.Pairwise (· < ·)
  applies : before \ {z | z ∈ t.delta.removed} ∪ {z | z ∈ t.delta.added} = now
  fresh : ∀ z ∈ t.delta.added, z ∉ before
  changes : ¬ (t.delta.added = [] ∧ t.delta.removed = [])
  previous : t.previous = .clean ↔ before = ∅
  next : t.next = .clean ↔ now = ∅
  notIdle : ¬ (t.previous = .clean ∧ t.next = .clean)
  firstListing : t.kind = .firstListing ↔ before = ∅
  recovery : t.kind = .recovery ↔ now = ∅
  zoneChange : t.kind = .zoneChange ↔ before ≠ ∅ ∧ now ≠ ∅

namespace IpState

variable {s : IpState} {seen seen' : List Observation}

theorem leads_transition (h : Observation.listed seen ≠ s.listedZones) :
    (s.transition seen).Leads s.listedZones.members (Observation.zonesOf .listed seen)
      (Observation.zonesOf .unknown seen) := by
  rw [← Observation.members_zonesWith, ← Observation.members_zonesWith]
  have hadded : {z | z ∈ (s.transition seen).delta.added} =
      (Observation.listed seen).members \ s.listedZones.members :=
    ZoneSet.setOf_mem_difference (Observation.listed seen) s.listedZones
  have hremoved : {z | z ∈ (s.transition seen).delta.removed} =
      s.listedZones.members \ (Observation.listed seen).members :=
    ZoneSet.setOf_mem_difference s.listedZones (Observation.listed seen)
  have hmembers : (Observation.listed seen).members ≠ s.listedZones.members :=
    fun hsame => h (ZoneSet.members_inj.1 hsame)
  -- Two empty sets would be equal, so at most one side is empty.
  have hmoves : ¬ (s.listedZones.members = ∅ ∧ (Observation.listed seen).members = ∅) := by
    rintro ⟨hbefore, hnow⟩
    exact hmembers (hnow.trans hbefore.symm)
  have hkind := s.kind_transition seen
  refine {
    listed := rfl
    unknown := rfl
    added := hadded
    removed := hremoved
    increasing := ?_
    applies := ?_
    fresh := fun _ hz => (hadded.subset hz).2
    changes := ?_
    previous := ListingState.ofZones_eq_clean_iff
    next := ListingState.ofZones_eq_clean_iff
    notIdle := fun hclean => hmoves
      (hclean.imp ListingState.ofZones_eq_clean_iff.1 ListingState.ofZones_eq_clean_iff.1)
    firstListing := hkind ▸ TransitionKind.between_eq_firstListing_iff
    recovery := ?_
    zoneChange := hkind ▸ TransitionKind.between_eq_zoneChange_iff }
  · simp only [List.forall_mem_cons]
    exact ⟨(Observation.listed seen).increasing, (Observation.zonesWith .unknown seen).increasing,
      ZoneSet.pairwise_difference _ _, ZoneSet.pairwise_difference _ _, nofun⟩
  · rw [hadded, hremoved, Set.sdiff_sdiff_right_self, Set.inter_comm, Set.inter_union_sdiff]
  · rintro ⟨hnone, hnone'⟩
    simp only [hnone, hnone', List.not_mem_nil, Set.ofPred_false] at hadded hremoved
    exact hmembers (Set.Subset.antisymm (Set.sdiff_eq_empty.1 hadded.symm)
      (Set.sdiff_eq_empty.1 hremoved.symm))
  · rw [hkind, TransitionKind.between_eq_recovery_iff]
    exact ⟨And.right, fun hnow => ⟨fun hbefore => hmoves ⟨hbefore, hnow⟩, hnow⟩⟩

end IpState

/-! ## What counts of the results -/

namespace Observation

variable {seen seen' : List Observation}

/-- What counts of some results: those that do not say no, in whatever order and however often. -/
def evidence (seen : List Observation) : Set Observation :=
  {o | o ∈ seen ∧ o.status ≠ .notListed}

theorem zonesOf_eq_of_evidence {status : ProbeStatus} (hstatus : status ≠ .notListed)
    (h : evidence seen' = evidence seen) : zonesOf status seen' = zonesOf status seen := by
  refine Set.ext fun z => ?_
  have hmem := Set.ext_iff.1 h ⟨z, status⟩
  exact (and_iff_left hstatus).symm.trans (hmem.trans (and_iff_left hstatus))

/-- A result as it is, or one that left the question open taken for a no. -/
inductive Settles : Observation → Observation → Prop
  | kept (o : Observation) : Settles o o
  | closed (zone : String) : Settles ⟨zone, .unknown⟩ ⟨zone, .notListed⟩

theorem Settles.listed_iff {o o' : Observation} (h : Settles o o') (z : String) :
    ⟨z, .listed⟩ = o' ↔ ⟨z, .listed⟩ = o := by
  cases h with
  | kept o => exact Iff.rfl
  | closed zone => simp

theorem zonesOf_listed_of_settles (h : List.Forall₂ Settles seen seen') :
    zonesOf .listed seen' = zonesOf .listed seen := by
  refine Set.ext fun z => ?_
  simp only [zonesOf, Set.mem_ofPred_eq]
  induction h with
  | nil => exact Iff.rfl
  | cons ho _ ih => rw [List.mem_cons, List.mem_cons, ho.listed_iff, ih]

end Observation

namespace IpState

/-- As long as the same zones say yes, only the zones that say nothing can differ. -/
theorem decide_of_listed_eq (s : IpState) {seen seen' : List Observation}
    (h : Observation.listed seen' = Observation.listed seen) :
    s.decide seen' = (s.decide seen).map fun t =>
      { t with unknownZones := (Observation.zonesWith .unknown seen').toList } := by
  rw [decide_eq, decide_eq, h]
  by_cases hsame : Observation.listed seen = s.listedZones
  · rw [if_pos hsame, if_pos hsame, Option.map_none]
  · rw [if_neg hsame, if_neg hsame, Option.map_some, transition, h]
    rfl

/-- The decision by sets. Nothing is decided just if the zones that say yes are the recorded ones;
otherwise it is a transition from these to those, of the state's own address. Other results decide
the same if they differ in order and repetitions and in those that say no; a zone that says nothing
and is taken to say no is only missing among the unknown ones then. -/
theorem decide_by_sets (s : IpState) (seen : List Observation) :
    let before := s.listedZones.members
    let now := Observation.zonesOf .listed seen
    (s.decide seen = none ↔ now = before) ∧
      (now ≠ before → ∃ t, s.decide seen = some t ∧ t.ip = s.address ∧ t.requiresUpdate = true ∧
        t.Leads before now (Observation.zonesOf .unknown seen)) ∧
      (∀ seen', Observation.evidence seen' = Observation.evidence seen →
        s.decide seen' = s.decide seen) ∧
      ∀ seen', List.Forall₂ Observation.Settles seen seen' →
        s.decide seen' = (s.decide seen).map fun t =>
          { t with unknownZones := (Observation.zonesWith .unknown seen').toList } := by
  intro before now
  have hsets : now = before ↔ Observation.listed seen = s.listedZones := by
    rw [← ZoneSet.members_inj, Observation.members_zonesWith]
  refine ⟨decide_eq_none_iff.trans hsets.symm, fun hdiffer => ?_, fun seen' hevidence => ?_,
    fun seen' hsettles => ?_⟩
  · have hlisted : Observation.listed seen ≠ s.listedZones := fun h => hdiffer (hsets.2 h)
    exact ⟨s.transition seen, decide_eq_some_iff.2 ⟨hlisted, rfl⟩, rfl, rfl,
      leads_transition hlisted⟩
  · have hlisted : Observation.listed seen' = Observation.listed seen :=
      Observation.zonesWith_eq_iff.2 (Observation.zonesOf_eq_of_evidence nofun hevidence)
    have hunknown : Observation.zonesWith .unknown seen' = Observation.zonesWith .unknown seen :=
      Observation.zonesWith_eq_iff.2 (Observation.zonesOf_eq_of_evidence nofun hevidence)
    rw [decide_of_listed_eq s hlisted, hunknown, ← decide_of_listed_eq s rfl]
  · exact decide_of_listed_eq s
      (Observation.zonesWith_eq_iff.2 (Observation.zonesOf_listed_of_settles hsettles))

/-- Two zones contradict themselves; the same results come in another order, some of them twice and
without those that say no, or with nothing left open. -/
theorem decide_by_sets_contradictory :
    let s : IpState := ⟨7, ⟨192, 0, 2, 1⟩, 60, none, .ofList ["c.example", "b.example"], none⟩
    let seen : List Observation := [⟨"a.example", .listed⟩, ⟨"b.example", .unknown⟩,
      ⟨"a.example", .unknown⟩, ⟨"b.example", .listed⟩, ⟨"c.example", .notListed⟩]
    let again : List Observation := [⟨"b.example", .listed⟩, ⟨"a.example", .unknown⟩,
      ⟨"a.example", .listed⟩, ⟨"b.example", .listed⟩, ⟨"b.example", .unknown⟩]
    let closed : List Observation := [⟨"a.example", .listed⟩, ⟨"b.example", .notListed⟩,
      ⟨"a.example", .unknown⟩, ⟨"b.example", .listed⟩, ⟨"c.example", .notListed⟩]
    (∃ t, s.decide seen = some t ∧ t.kind = .zoneChange ∧ s.decide again = some t ∧
      s.decide closed = some { t with unknownZones := ["a.example"] }) := by
  intro s seen again closed
  obtain ⟨-, hchange, hsame, hsettled⟩ := decide_by_sets s seen
  have hdiffer : Observation.zonesOf .listed seen ≠ s.listedZones.members := by
    intro h
    have hnew : "a.example" ∈ s.listedZones.members :=
      h ▸ (by decide : (⟨"a.example", .listed⟩ : Observation) ∈ seen)
    exact (by decide : "a.example" ∉ s.listedZones) hnew
  have hevidence : Observation.evidence again = Observation.evidence seen := by
    refine Set.ext fun o => and_congr_left fun hstatus => ⟨fun ho => ?_, fun ho => ?_⟩
    · exact (by decide : ∀ o ∈ again, o.status ≠ .notListed → o ∈ seen) o ho hstatus
    · exact (by decide : ∀ o ∈ seen, o.status ≠ .notListed → o ∈ again) o ho hstatus
  have hsettles : List.Forall₂ Observation.Settles seen closed :=
    .cons (.kept _) (.cons (.closed _) (.cons (.kept _) (.cons (.kept _) (.cons (.kept _) .nil))))
  obtain ⟨t, ht, -, -, hleads⟩ := hchange hdiffer
  refine ⟨t, ht, hleads.zoneChange.2 ⟨fun hbefore => ?_, fun hnow => ?_⟩,
    (hsame again hevidence).trans ht, ?_⟩
  · exact Set.notMem_empty "b.example" (hbefore ▸ (by decide : "b.example" ∈ s.listedZones))
  · exact Set.notMem_empty "b.example"
      (hnow ▸ (by decide : (⟨"b.example", .listed⟩ : Observation) ∈ seen))
  · rw [hsettled closed hsettles, ht, Option.map_some]
    rfl

end IpState

end BlocklistWatch
