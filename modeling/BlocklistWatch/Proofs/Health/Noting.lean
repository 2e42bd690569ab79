import Mathlib.Data.List.Nodup
import BlocklistWatch.Health.Tracker
import BlocklistWatch.Proofs.Zone.Stored

/-!
# What noting verdicts does to a tracker

A verdict about a tracked zone moves the record of that zone by one check and no other record, so
the order in which verdicts about different zones come in does not matter.

* `ZoneRecord.after` is a record after one more check, `ZoneRecord.afterAll` after several;
  `ZoneRecord.isBroken_afterAll_fresh` says when that counts as broken.
* `HealthTracker.Since` holds of a tracker that was started for some zones, with any history;
  `HealthTracker.Since.zones` says that its zones never change.
* `HealthTracker.notedAt` is a tracker after one check of each zone of some choice, and
  `HealthTracker.noteVerdict_notedAt` says that noting extends the choice.
-/

namespace BlocklistWatch

/-! ## One record -/

namespace ZoneRecord

/-- The record after one more check that came to the verdict: one more check, counted as successful
or under the reason of the failure. -/
def after (r : ZoneRecord) (v : Verdict) : ZoneRecord :=
  match v.failure with
  | none => { r with performed := r.performed + 1, successful := r.successful + 1 }
  | some kind =>
    { r with
      performed := r.performed + 1
      failed := r.failed + 1
      failures := r.failures.add kind }

@[simp] theorem zone_after (r : ZoneRecord) (v : Verdict) : (r.after v).zone = r.zone := by
  cases v <;> rfl

theorem note?_verdict (r : ZoneRecord) (v : Verdict) :
    r.note? v.status.isDefinitive v.failure = some (r.after v) := by
  cases v <;> rfl

theorem performed_after (r : ZoneRecord) (v : Verdict) :
    (r.after v).performed = r.performed + 1 := by
  cases v <;> rfl

theorem failed_after (r : ZoneRecord) (v : Verdict) :
    (r.after v).failed = r.failed + if v.status = .unknown then 1 else 0 := by
  cases v <;> rfl

/-- The record after one check after another. -/
def afterAll (r : ZoneRecord) (verdicts : List Verdict) : ZoneRecord :=
  verdicts.foldl after r

@[simp] theorem zone_afterAll (r : ZoneRecord) (verdicts : List Verdict) :
    (r.afterAll verdicts).zone = r.zone := by
  induction verdicts generalizing r with
  | nil => rfl
  | cons v verdicts ih => exact (ih (r.after v)).trans (r.zone_after v)

theorem performed_afterAll (r : ZoneRecord) (verdicts : List Verdict) :
    (r.afterAll verdicts).performed = r.performed + verdicts.length := by
  induction verdicts generalizing r with
  | nil => rfl
  | cons v verdicts ih =>
    have hrest : ((r.after v).afterAll verdicts).performed =
        (r.after v).performed + verdicts.length := ih _
    rw [performed_after] at hrest
    rw [List.length_cons]
    exact hrest.trans (by omega)

theorem failed_afterAll (r : ZoneRecord) (verdicts : List Verdict) :
    (r.afterAll verdicts).failed =
      r.failed + verdicts.countP fun v => v.status = .unknown := by
  induction verdicts generalizing r with
  | nil => rfl
  | cons v verdicts ih =>
    have hrest : ((r.after v).afterAll verdicts).failed =
        (r.after v).failed + verdicts.countP fun v => v.status = .unknown := ih _
    rw [failed_after] at hrest
    rw [List.countP_cons]
    simp only [decide_eq_true_eq]
    exact hrest.trans (by omega)

/-- A record counts as broken after some checks if there were any and none got a definite answer. -/
theorem isBroken_afterAll_fresh (zone : String) (verdicts : List Verdict) :
    ((fresh zone).afterAll verdicts).isBroken = true ↔
      verdicts ≠ [] ∧ ∀ v ∈ verdicts, v.status = .unknown := by
  have hperformed : ((fresh zone).afterAll verdicts).performed = verdicts.length := by
    rw [performed_afterAll]
    exact Nat.zero_add _
  have hfailed : ((fresh zone).afterAll verdicts).failed =
      verdicts.countP fun v => v.status = .unknown := by
    rw [failed_afterAll]
    exact Nat.zero_add _
  rw [isBroken, hperformed, hfailed, Bool.and_eq_true, decide_eq_true_eq, List.length_pos_iff,
    beq_iff_eq, List.countP_eq_length]
  simp only [decide_eq_true_eq]

end ZoneRecord

namespace HealthTracker

/-! ## Trackers with a history -/

/-- A tracker that was started for the zones, after any number of addresses and checks. -/
inductive Since (configured : List String) : HealthTracker → Prop where
  | built {t : HealthTracker} : ofZones configured = .ok t → Since configured t
  | started {t : HealthTracker} : Since configured t → Since configured t.start
  | noted {t t' : HealthTracker} {zone : String} {success : Bool} {failure : Option FailureKind} :
      Since configured t → t.note zone success failure = .ok t' → Since configured t'

theorem zones_of_ofZones {configured : List String} {t : HealthTracker}
    (h : ofZones configured = .ok t) : t.zones = Text.sortNames configured := by
  unfold ofZones at h
  split at h
  · exact absurd h (by simp)
  · rw [← Except.ok.inj h]
    simp [zones, Function.comp_def]

theorem Since.zones {configured : List String} {t : HealthTracker} (h : Since configured t) :
    t.zones = Text.sortNames configured := by
  induction h with
  | built h => exact zones_of_ofZones h
  | started _ ih => exact ih
  | noted _ hnote ih => rw [zones_note hnote, ih]

theorem Since.nodup_zones {configured : List String} {t : HealthTracker}
    (h : Since configured t) : t.zones.Nodup := by
  rw [h.zones]
  exact (Text.pairwise_sortNames configured).imp String.ne_of_lt

/-! ## Records by their zones -/

theorem record?_eq_none_iff {t : HealthTracker} {zone : String} :
    t.record? zone = none ↔ zone ∉ t.zones := by
  unfold record? zones
  rw [List.find?_eq_none, List.mem_map]
  constructor
  · rintro h ⟨r, hr, rfl⟩
    exact h r hr (by simp)
  · intro h r hr hzone
    exact h ⟨r, hr, by simpa using hzone⟩

theorem exists_record?_of_mem {t : HealthTracker} {zone : String} (h : zone ∈ t.zones) :
    ∃ r, t.record? zone = some r := by
  cases hr : t.record? zone with
  | none => exact absurd h (record?_eq_none_iff.1 hr)
  | some r => exact ⟨r, rfl⟩

theorem of_record? {t : HealthTracker} {zone : String} {r : ZoneRecord}
    (h : t.record? zone = some r) : r ∈ t.records ∧ r.zone = zone :=
  ⟨List.mem_of_find?_eq_some h, by simpa using List.find?_some h⟩

theorem record?_map (t : HealthTracker) (f : ZoneRecord → ZoneRecord)
    (hf : ∀ r, (f r).zone = r.zone) (zone : String) :
    ({ t with records := t.records.map f } : HealthTracker).record? zone =
      (t.record? zone).map f := by
  unfold record?
  rw [List.find?_map]
  congr 2
  funext r
  simp [hf]

/-! ## Checks of chosen zones -/

/-- The tracker after one check of each zone of the choice. -/
def notedAt (t : HealthTracker) (chosen : String → Bool) (verdict : String → Verdict) :
    HealthTracker :=
  { t with records := t.records.map fun r => if chosen r.zone then r.after (verdict r.zone) else r }

variable {t : HealthTracker} {chosen : String → Bool} {verdict : String → Verdict}

theorem zone_notedAt (r : ZoneRecord) :
    (if chosen r.zone then r.after (verdict r.zone) else r).zone = r.zone := by
  by_cases h : chosen r.zone = true
  · rw [if_pos h, ZoneRecord.zone_after]
  · rw [if_neg h]

theorem zones_notedAt : (t.notedAt chosen verdict).zones = t.zones := by
  unfold zones notedAt
  rw [List.map_map]
  exact List.map_congr_left fun r _ => zone_notedAt r

theorem record?_notedAt (zone : String) :
    (t.notedAt chosen verdict).record? zone =
      (t.record? zone).map fun r => if chosen zone then r.after (verdict zone) else r := by
  rw [notedAt, record?_map t _ zone_notedAt]
  cases hr : t.record? zone with
  | none => rfl
  | some r => simp [(of_record? hr).2]

theorem notedAt_none : t.notedAt (fun _ => false) verdict = t := by
  simp [notedAt]

theorem noteVerdict_of_not_mem {zone : String} (h : zone ∉ t.zones) (v : Verdict) :
    t.noteVerdict zone v = .error (.unknownZone zone) := by
  unfold noteVerdict note
  rw [record?_eq_none_iff.2 h]

theorem noteVerdict_of_mem (hnodup : t.zones.Nodup) {zone : String} (h : zone ∈ t.zones)
    (v : Verdict) :
    t.noteVerdict zone v =
      .ok { t with records := t.records.map fun r => if r.zone = zone then r.after v else r } := by
  obtain ⟨r, hr⟩ := exists_record?_of_mem h
  obtain ⟨hmem, hzone⟩ := of_record? hr
  unfold noteVerdict note
  simp only [hr, ZoneRecord.note?_verdict, put, ZoneRecord.zone_after, Except.ok.injEq]
  congr 1
  refine List.map_congr_left fun old hold => ?_
  by_cases hsame : old.zone = zone
  · have heq : old = r := List.inj_on_of_nodup_map hnodup hold hmem (hsame.trans hzone.symm)
    rw [if_pos (hsame.trans hzone.symm), if_pos hsame, heq]
  · rw [if_neg (by rwa [hzone]), if_neg hsame]

/-- Noting the verdict about a zone outside the choice adds the zone to the choice. -/
theorem noteVerdict_notedAt (hnodup : t.zones.Nodup) {zone : String} (h : zone ∈ t.zones)
    (hnew : chosen zone = false) :
    (t.notedAt chosen verdict).noteVerdict zone (verdict zone) =
      .ok (t.notedAt (fun z => z == zone || chosen z) verdict) := by
  rw [noteVerdict_of_mem (by rwa [zones_notedAt]) (by rwa [zones_notedAt])]
  congr 1
  unfold notedAt
  simp only [List.map_map]
  congr 1
  refine List.map_congr_left fun r _ => ?_
  simp only [Function.comp_apply, zone_notedAt]
  by_cases hsame : r.zone = zone
  · simp [hsame, hnew]
  · simp [hsame]

/-- A tracker before and after one check of each of some zones, and of no other zone. -/
structure CheckedOnce (zones : List String) (verdict : String → Verdict)
    (t t' : HealthTracker) : Prop where
  started : t'.started = t.started
  tracked : t'.zones = t.zones
  checked : ∀ zone ∈ zones, ∃ r, t.record? zone = some r ∧
    t'.record? zone = some (r.after (verdict zone))
  others : ∀ zone, zone ∉ zones → t'.record? zone = t.record? zone

theorem checkedOnce_notedAt {zones : List String} (hknown : ∀ zone ∈ zones, zone ∈ t.zones)
    (hchosen : ∀ zone, chosen zone = true ↔ zone ∈ zones) :
    CheckedOnce zones verdict t (t.notedAt chosen verdict) := by
  refine ⟨rfl, zones_notedAt, fun zone hzone => ?_, fun zone hzone => ?_⟩
  · obtain ⟨r, hr⟩ := exists_record?_of_mem (hknown zone hzone)
    refine ⟨r, hr, ?_⟩
    rw [record?_notedAt, hr, Option.map_some, if_pos ((hchosen zone).2 hzone)]
  · have hnot : ¬ chosen zone = true := fun h => hzone ((hchosen zone).1 h)
    rw [record?_notedAt]
    simp only [if_neg hnot, Option.map_id']

end HealthTracker

end BlocklistWatch
