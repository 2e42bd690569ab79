import Mathlib.Data.List.Nodup
import BlocklistWatch.Proofs.Health.Counting
import BlocklistWatch.Proofs.Report.Shown

/-!
# The two reports of a run agree

The JSON summary and the list of the zones to keep are made of the same records, but each puts them
in order and picks out the broken ones by itself. They still tell the same, whatever the tracker was
told: the records of a tracker are in order already, so nothing is moved and nothing is dropped.

* `ZoneRecord.shown` is what the summary shows of a record; `ZoneRecord.in_reportEntry` and
  `ZoneRecord.consistent_tallied` are about one record.
* `HealthSummary.sortedRecords_eq` and `PrunedZones.ofRecords_eq` keep the order of a tracker.
* `HealthTracker.reports_agree` compares the two reports with each other and with the tracker; what
  it says of the summary is also what is read from the text of it.
-/

namespace BlocklistWatch

open Json (Value)

/-! ## One record -/

/-- The kinds are entered in increasing order of their names. -/
theorem FailureTally.pairwise_entries (t : FailureTally) :
    t.entries.Pairwise fun k l => k.1.tag < l.1.tag := by
  have hall : FailureKind.all.Pairwise fun k l => k.tag < l.tag := by decide
  have hcounts : (FailureKind.all.map fun k => (k, t.count k)).Pairwise
      fun k l => k.1.tag < l.1.tag := List.pairwise_map.2 hall
  exact hcounts.filter _

namespace ZoneRecord

def shown (r : ZoneRecord) : ShownZone where
  zone := r.zone
  status := r.status
  performed := r.performed
  successful := r.successful
  failed := r.failed
  kinds := r.failures.entries.map fun entry => (entry.1.tag, entry.2)

theorem in_reportEntry (r : ZoneRecord) : r.shown.In r.reportEntry where
  zone := rfl
  status := rfl
  performed := rfl
  successful := rfl
  failed := rfl
  kinds := by
    rw [shown, List.map_map]
    rfl

theorem status_eq_broken_iff (r : ZoneRecord) : r.status = .broken ↔ r.isBroken = true := by
  rw [status]
  split <;> simp_all

theorem consistent_tallied (zone : String) (calls : List TrackerCall) :
    (tallied zone calls).shown.Consistent := by
  have hcounts := counts_tallied zone calls
  refine ⟨hcounts.performed, ?_, List.pairwise_map.2 (FailureTally.pairwise_entries _), ?_⟩
  · rw [shown, List.map_map]
    exact hcounts.explained
  · rw [shown, status_eq_broken_iff, isBroken, Bool.and_eq_true, decide_eq_true_eq, beq_iff_eq]

end ZoneRecord

/-! ## Records in order -/

variable {records : List ZoneRecord}

theorem HealthSummary.sortedRecords_eq {s : HealthSummary}
    (h : (s.records.map (·.zone)).Pairwise (· < ·)) : s.sortedRecords = s.records := by
  refine List.mergeSort_of_pairwise ((List.pairwise_map.1 h).imp fun hless => ?_)
  exact decide_eq_true (Std.le_of_lt hless)

theorem pairwise_zones_filter (h : (records.map (·.zone)).Pairwise (· < ·))
    (p : ZoneRecord → Bool) : ((records.filter p).map (·.zone)).Pairwise (· < ·) :=
  List.pairwise_map.2 ((List.pairwise_map.1 h).filter p)

theorem PrunedZones.ofRecords_eq (h : (records.map (·.zone)).Pairwise (· < ·)) (moment : Moment) :
    ofRecords records moment =
      ⟨(records.filter (!·.isBroken)).map (·.zone), (records.filter (·.isBroken)).map (·.zone),
        moment⟩ := by
  rw [ofRecords, Text.sortNames_of_pairwise (pairwise_zones_filter h _),
    Text.sortNames_of_pairwise (pairwise_zones_filter h _)]

/-- A zone of one record cannot be both picked out and left. -/
theorem disjoint_zones_filter (h : (records.map (·.zone)).Nodup) (p : ZoneRecord → Bool) :
    ((records.filter p).map (·.zone)).Disjoint ((records.filter (!p ·)).map (·.zone)) := by
  intro zone hpicked hleft
  obtain ⟨r, hr, rfl⟩ := List.mem_map.1 hpicked
  obtain ⟨r', hr', hzone⟩ := List.mem_map.1 hleft
  rw [List.mem_filter] at hr hr'
  have hsame : r' = r := List.inj_on_of_nodup_map h hr'.1 hr.1 hzone
  rw [hsame, hr.2] at hr'
  exact absurd hr'.2 Bool.false_ne_true

theorem mem_zones_parted (p : ZoneRecord → Bool) (zone : String) :
    zone ∈ (records.filter p).map (·.zone) ∨ zone ∈ (records.filter (!p ·)).map (·.zone) ↔
      zone ∈ records.map (·.zone) := by
  rw [← List.mem_append, ← List.map_append]
  exact ((List.filter_append_perm p records).map _).mem_iff

/-! ## The reports of a tracker -/

namespace HealthTracker

/-- The records of a tracker are what one gets by counting the calls about the single zones. -/
theorem records_afterCalls {configured : List String} {t : HealthTracker}
    (h : ofZones configured = .ok t) (calls : List TrackerCall) :
    (t.afterCalls calls).records =
      (Text.sortNames configured).map fun zone => ZoneRecord.tallied zone calls := by
  rw [eq_tallied_of_ofZones h, afterCalls_tallied, tallied]

theorem zones_afterCalls {configured : List String} {t : HealthTracker}
    (h : ofZones configured = .ok t) (calls : List TrackerCall) :
    (t.afterCalls calls).records.map (·.zone) = Text.sortNames configured := by
  rw [records_afterCalls h, List.map_map]
  exact List.map_id' _

/-- The reports about a tracker with any history. The summary, as it is written and as it is read
from its text, shows each tracked zone once, in increasing order, with numbers that fit together,
and its totals count what it shows. The zones to
drop are those that are shown as broken, the zones to keep are the others. -/
theorem reports_agree {configured : List String} {t : HealthTracker}
    (h : ofZones configured = .ok t) (calls : List TrackerCall)
    (connectivity : Option Connectivity) (moment : Moment) (durationMs : Nat) :
    let s := (t.afterCalls calls).summarize connectivity moment durationMs
    let p := s.pruned
    ∃ (report : Value) (shown : ShownHealth), s.report = report.pretty ∧ shown.In report ∧
      shown.ReadFrom s.report ∧
      (shown.zones.map (·.zone)).Pairwise (· < ·) ∧
      (∀ zone, zone ∈ shown.zones.map (·.zone) ↔ zone ∈ configured) ∧
      shown.total = shown.zones.length ∧
      shown.broken = shown.zones.countP (·.status = .broken) ∧
      (∀ z ∈ shown.zones, z.Consistent) ∧
      p.removed = s.brokenZoneNames ∧
      p.removed = (shown.zones.filter (·.status = .broken)).map (·.zone) ∧
      p.healthy = (shown.zones.filter (¬ ·.status = .broken)).map (·.zone) ∧
      p.removed.Pairwise (· < ·) ∧ p.healthy.Pairwise (· < ·) ∧ p.removed.Disjoint p.healthy ∧
      ∀ zone, zone ∈ p.removed ∨ zone ∈ p.healthy ↔ zone ∈ configured := by
  intro s p
  have hrecords : s.records = (Text.sortNames configured).map fun zone =>
      ZoneRecord.tallied zone calls := records_afterCalls h calls
  have hzones : s.records.map (·.zone) = Text.sortNames configured := zones_afterCalls h calls
  have hordered : (s.records.map (·.zone)).Pairwise (· < ·) := by
    rw [hzones]
    exact Text.pairwise_sortNames configured
  have hsorted : s.sortedRecords = s.records := HealthSummary.sortedRecords_eq hordered
  have hpruned : p = ⟨(s.records.filter (!·.isBroken)).map (·.zone),
      (s.records.filter (·.isBroken)).map (·.zone), moment⟩ :=
    PrunedZones.ofRecords_eq hordered moment
  have hmem : ∀ zone, zone ∈ s.records.map (·.zone) ↔ zone ∈ configured := fun zone => by
    rw [hzones, Text.mem_sortNames]
  have hstatus : ∀ r : ZoneRecord, decide (r.shown.status = .broken) = r.isBroken := fun r =>
    Bool.eq_iff_iff.2 (decide_eq_true_iff.trans r.status_eq_broken_iff)
  have hshown : (s.records.map (·.shown)).map (·.zone) = s.records.map (·.zone) := by
    rw [List.map_map]
    rfl
  have hin : ShownHealth.In s.reportValue
      ⟨s.totalZones, s.brokenZones, s.records.map (·.shown)⟩ := by
    refine ⟨rfl, rfl, _, rfl, ?_⟩
    rw [hsorted, List.forall₂_map_left_iff, List.forall₂_map_right_iff]
    exact List.forall₂_same.2 fun r _ => r.in_reportEntry
  refine ⟨s.reportValue, _, rfl, hin, ShownHealth.readFrom_pretty hin, hshown ▸ hordered,
    fun zone => ?_, (List.length_map _).symm, ?_, fun z hz => ?_, ?_, ?_, ?_, ?_, ?_, ?_,
    fun zone => ?_⟩
  · rw [hshown, hmem]
  · have hbroken : s.brokenZones = s.records.countP (·.isBroken) :=
      List.countP_eq_length_filter.symm
    rw [hbroken, List.countP_map]
    simp only [Function.comp_def, hstatus]
  · obtain ⟨r, hr, rfl⟩ := List.mem_map.1 hz
    rw [hrecords] at hr
    obtain ⟨zone, -, rfl⟩ := List.mem_map.1 hr
    exact ZoneRecord.consistent_tallied zone calls
  · rw [hpruned]
    rfl
  · rw [hpruned, List.filter_map, List.map_map]
    simp only [Function.comp_def, hstatus]
    rfl
  · rw [hpruned, List.filter_map, List.map_map]
    simp only [Function.comp_def, decide_not, hstatus]
    rfl
  · rw [hpruned]
    exact pairwise_zones_filter hordered _
  · rw [hpruned]
    exact pairwise_zones_filter hordered _
  · rw [hpruned]
    exact disjoint_zones_filter (hordered.imp String.ne_of_lt) _
  · rw [← hmem, hpruned]
    exact mem_zones_parted _ zone

/-- Of three zones, one of them named twice at the start, one has failed in two ways, one was never
checked, and one has answered once and failed once. -/
theorem reports_agree_one_broken :
    let configured := ["c.example", "a.example", "b.example", "a.example"]
    let calls : List TrackerCall :=
      [.start, .note "b.example" true none, .note "a.example" false (some .timeout), .start,
        .note "b.example" false (some .unknownError), .note "d.example" true none,
        .note "a.example" false (some .nxdomainZone)]
    ∃ t, ofZones configured = .ok t ∧
      let s := (t.afterCalls calls).summarize (some .skipped) ⟨0, 0⟩ 0
      s.pruned.removed = ["a.example"] ∧ s.pruned.healthy = ["b.example", "c.example"] ∧
      ∃ (report : Value) (shown : ShownHealth), s.report = report.pretty ∧ shown.In report ∧
        shown.ReadFrom s.report ∧
        shown.zones.map (·.zone) = ["a.example", "b.example", "c.example"] ∧
        shown.total = 3 ∧ shown.broken = 1 ∧ ∀ z ∈ shown.zones, z.Consistent := by
  intro configured calls
  have hbuilt : ofZones configured =
      .ok ⟨[.fresh "a.example", .fresh "b.example", .fresh "c.example"], 0⟩ := by decide
  refine ⟨_, hbuilt, ?_⟩
  obtain ⟨report, shown, htext, hin, hread, hordered, hmem, htotal, hbroken, hconsistent, -,
    hremoved, -⟩ := reports_agree hbuilt calls (some .skipped) ⟨0, 0⟩ 0
  have hzones : shown.zones.map (·.zone) = ["a.example", "b.example", "c.example"] := by
    rw [← Text.sortNames_of_pairwise hordered, Text.sortNames_eq_of_mem_iff hmem]
    decide
  intro s
  have hdropped : s.pruned.removed = ["a.example"] := by decide +kernel
  refine ⟨hdropped, by decide +kernel, report, shown, htext, hin, hread, hzones, ?_, ?_,
    hconsistent⟩
  · have hlength := congrArg List.length hzones
    rw [List.length_map] at hlength
    exact htotal.trans hlength
  · have hlength := congrArg List.length (hremoved.symm.trans hdropped)
    rw [List.length_map, ← List.countP_eq_length_filter] at hlength
    exact hbroken.trans hlength

end HealthTracker

end BlocklistWatch
