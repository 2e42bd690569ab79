import Mathlib.Data.List.Basic
import Mathlib.Data.List.TakeWhile
import BlocklistWatch.Health.Tracker
import BlocklistWatch.Proofs.Config.Normalized

/-!
# What checking the settings comes to

The check brings the zone names into form and touches nothing else. The names in form stand in the
order in which each was first written; a second check has nothing left to change, and so comes to
the same verdict. The verdict itself is one condition on the settings.

* `pairwise_firstOccurrences` is the order of the first occurrences, and with
  `mem_firstOccurrences` says which list they are.
* `normalizedZones_normalizedZones`: names in form stay as they are.
* `ProbeSettings.fault?_eq_none_iff`, `PriorityPolicy.fault?_eq_none_iff` and
  `TicketSettings.fault?_eq_none_iff` are the conditions on the three groups of settings.
* `Settings.validate_decides` puts it all together.
-/

namespace BlocklistWatch

namespace Text

/-! ## Blank texts -/

theorem dropTrailing_eq_nil_iff {p : Char → Bool} {cs : List Char} :
    dropTrailing p cs = [] ↔ ∀ c ∈ cs, p c = true := by
  induction cs with
  | nil => simp
  | cons c cs ih =>
    rw [List.forall_mem_cons, ← ih, dropTrailing]
    cases hkept : dropTrailing p cs with
    | nil => by_cases hc : p c = true <;> simp [hc]
    | cons d kept => simp

theorem trimBlanks_eq_nil_iff {cs : List Char} :
    trimBlanks cs = [] ↔ ∀ c ∈ cs, isBlank c = true := by
  rw [trimBlanks, dropTrailing_eq_nil_iff]
  constructor
  · intro h c hc
    rw [← List.takeWhile_append_dropWhile (p := isBlank) (l := cs), List.mem_append] at hc
    exact hc.elim (fun hfront => List.mem_takeWhile_imp hfront) (h c)
  · exact fun h c hc => h c ((List.dropWhile_suffix _).subset hc)

theorem foldCase_foldCase (s : String) : foldCase (foldCase s) = foldCase s := by
  apply String.toList_inj.1
  rw [toList_foldCase, toList_foldCase, List.map_map]
  exact List.map_congr_left fun c _ => foldChar_foldChar c

end Text

theorem isBlankText_eq_false_iff {s : String} :
    isBlankText s = false ↔ ∃ c ∈ s.toList, Text.isBlank c = false := by
  have hempty : isBlankText s = true ↔ ∀ c ∈ s.toList, Text.isBlank c = true := by
    rw [isBlankText, String.isEmpty_iff, ← String.toList_eq_nil_iff, Text.toList_trim,
      Text.trimBlanks_eq_nil_iff]
  rw [← Bool.not_eq_true, hempty]
  simp

/-! ## First occurrences -/

/-- Each element stands where it was found first. -/
theorem pairwise_firstOccurrences (xs : List String) :
    (firstOccurrences xs).Pairwise fun a b => xs.idxOf a < xs.idxOf b := by
  induction xs with
  | nil => exact List.Pairwise.nil
  | cons x xs ih =>
    rw [firstOccurrences_cons]
    refine List.pairwise_cons.2 ⟨fun b hb => ?_, ?_⟩
    · have hne : b ≠ x := of_decide_eq_true (List.mem_filter.1 hb).2
      rw [List.idxOf_cons_self, List.idxOf_cons_ne _ hne.symm]
      exact Nat.succ_pos _
    · refine (ih.filter _).imp_of_mem fun {a b} ha hb hless => ?_
      have hane : a ≠ x := of_decide_eq_true (List.mem_filter.1 ha).2
      have hbne : b ≠ x := of_decide_eq_true (List.mem_filter.1 hb).2
      rw [List.idxOf_cons_ne _ hane.symm, List.idxOf_cons_ne _ hbne.symm]
      exact Nat.succ_lt_succ hless

theorem nodup_firstOccurrences (xs : List String) : (firstOccurrences xs).Nodup :=
  (pairwise_firstOccurrences xs).imp fun {a b} hless (heq : a = b) =>
    absurd hless (heq ▸ Nat.lt_irrefl _)

theorem firstOccurrences_of_nodup {xs : List String} (h : xs.Nodup) : firstOccurrences xs = xs := by
  induction xs with
  | nil => rfl
  | cons x xs ih =>
    obtain ⟨hx, hxs⟩ := List.nodup_cons.1 h
    rw [firstOccurrences_cons, ih hxs, List.filter_eq_self.2]
    intro y hy
    exact decide_eq_true fun heq => hx (heq ▸ hy)

/-- It makes no difference whether elements are dropped before or after. -/
theorem firstOccurrences_filter (p : String → Bool) (xs : List String) :
    firstOccurrences (xs.filter p) = (firstOccurrences xs).filter p := by
  induction xs with
  | nil => rfl
  | cons x xs ih =>
    rw [firstOccurrences_cons]
    by_cases hx : p x = true
    · rw [List.filter_cons_of_pos hx, List.filter_cons_of_pos hx, firstOccurrences_cons, ih,
        List.filter_comm]
    · rw [List.filter_cons_of_neg hx, List.filter_cons_of_neg hx, ih, List.filter_filter]
      refine List.filter_congr fun y _ => ?_
      by_cases hyx : y = x
      · simp [hyx, hx]
      · simp [hyx]

/-! ## Names in form -/

theorem pairwise_normalizedZones (zones : List String) :
    (normalizedZones zones).Pairwise fun a b =>
      (zones.map fun z => Text.foldCase (Text.trim z)).idxOf a <
        (zones.map fun z => Text.foldCase (Text.trim z)).idxOf b := by
  rw [normalizedZones, firstOccurrences_filter]
  exact (pairwise_firstOccurrences _).filter _

theorem nodup_normalizedZones (zones : List String) : (normalizedZones zones).Nodup :=
  nodup_firstOccurrences _

theorem foldCase_trim_of_mem_normalizedZones {zone : String} {zones : List String}
    (h : zone ∈ normalizedZones zones) : Text.foldCase (Text.trim zone) = zone := by
  rw [trim_of_mem_normalizedZones h]
  obtain ⟨-, given, -, rfl⟩ := mem_normalizedZones.1 h
  exact Text.foldCase_foldCase _

theorem normalizedZones_normalizedZones (zones : List String) :
    normalizedZones (normalizedZones zones) = normalizedZones zones := by
  have hsame : (normalizedZones zones).map (fun z => Text.foldCase (Text.trim z)) =
      normalizedZones zones :=
    (List.map_congr_left fun z hz => foldCase_trim_of_mem_normalizedZones hz).trans (List.map_id _)
  have hkept : (normalizedZones zones).filter (· ≠ "") = normalizedZones zones :=
    List.filter_eq_self.2 fun z hz => decide_eq_true (mem_normalizedZones.1 hz).1
  rw [normalizedZones, hsame, hkept, firstOccurrences_of_nodup (nodup_normalizedZones zones)]

/-! ## The verdict -/

theorem ite_some_eq_none {α : Type} {p : Prop} [Decidable p] {a : α} {rest : Option α} :
    (if p then some a else rest) = none ↔ ¬ p ∧ rest = none := by
  by_cases h : p <;> simp [h]

theorem ProbeSettings.fault?_eq_none_iff (s : ProbeSettings) :
    s.fault? = none ↔ s.zones ≠ [] ∧ (1 ≤ s.timeoutSecs ∧ s.timeoutSecs ≤ 60) ∧
      1 ≤ s.concurrency ∧ s.concurrency ≤ 100 := by
  rw [fault?, ite_some_eq_none, ite_some_eq_none, ite_some_eq_none, List.isEmpty_iff,
    Decidable.not_not, Decidable.not_not, and_iff_left (rfl : none = none)]

theorem PriorityPolicy.fault?_eq_none_iff (p : PriorityPolicy) :
    p.fault? = none ↔ p.listed < p.fallback ∧ p.fallback ≤ 100 := by
  have hundred : (100 : UInt8).toNat = 100 := rfl
  rw [fault?, ite_some_eq_none, ite_some_eq_none, and_iff_left (rfl : none = none)]
  simp only [UInt8.lt_iff_toNat_lt, UInt8.le_iff_toNat_le, hundred]
  omega

theorem TicketSettings.fault?_eq_none_iff (t : TicketSettings) :
    t.fault? = none ↔ "https://".toList <+: t.server.toList ∧
      ∀ text ∈ [t.user, t.token, t.project], ∃ c ∈ text.toList, Text.isBlank c = false := by
  have hserver : (Text.stripPrefix? "https://".toList t.server.toList).isNone = false ↔
      "https://".toList <+: t.server.toList := by
    rw [Option.isNone_eq_false_iff, Option.isSome_iff_exists]
    exact exists_congr fun rest => Text.stripPrefix?_eq_some_iff.trans eq_comm
  rw [fault?, ite_some_eq_none, Bool.not_eq_true, hserver, Option.map_eq_none_iff,
    List.find?_eq_none]
  simp only [List.forall_mem_cons, List.not_mem_nil, false_implies, implies_true, and_true,
    Bool.not_eq_true, isBlankText_eq_false_iff]

theorem Settings.fault?_eq_none_iff (s : Settings) :
    s.fault? = none ↔ s.probing.fault? = none ∧ s.priority.fault? = none ∧
      ∀ t ∈ s.tickets, t.fault? = none := by
  rw [fault?, Option.or_eq_none_iff, Option.or_eq_none_iff]
  refine and_congr_right fun _ => and_congr_right fun _ => ?_
  cases s.tickets with
  | none => simp
  | some t => simp

namespace Settings

/-- Settings with names in form that a run can be made with. -/
structure Fit (s : Settings) : Prop where
  zones : s.probing.zones ≠ []
  timeout : 1 ≤ s.probing.timeoutSecs ∧ s.probing.timeoutSecs ≤ 60
  concurrency : 1 ≤ s.probing.concurrency ∧ s.probing.concurrency ≤ 100
  priorities : s.priority.listed < s.priority.fallback ∧ s.priority.fallback ≤ 100
  server : ∀ t ∈ s.tickets, "https://".toList <+: t.server.toList
  credentials : ∀ t ∈ s.tickets, ∀ text ∈ [t.user, t.token, t.project],
    ∃ c ∈ text.toList, Text.isBlank c = false

theorem fault?_eq_none_iff_fit (s : Settings) : s.fault? = none ↔ s.Fit := by
  rw [fault?_eq_none_iff, ProbeSettings.fault?_eq_none_iff, PriorityPolicy.fault?_eq_none_iff]
  simp only [TicketSettings.fault?_eq_none_iff]
  constructor
  · rintro ⟨⟨hzones, htimeout, hconcurrency⟩, hpriorities, htickets⟩
    exact ⟨hzones, htimeout, hconcurrency, hpriorities, fun t ht => (htickets t ht).1,
      fun t ht => (htickets t ht).2⟩
  · intro h
    exact ⟨⟨h.zones, h.timeout, h.concurrency⟩, h.priorities,
      fun t ht => ⟨h.server t ht, h.credentials t ht⟩⟩

theorem normalized_normalized (s : Settings) : s.normalized.normalized = s.normalized := by
  simp only [normalized, normalizedZones_normalizedZones]

/-- The check leaves everything but the zone names alone. Of these it keeps the trimmed ones in
lower case that are not empty, each once and in the order in which they were first written. A second
check changes nothing and comes to the same verdict, which is that of `Fit`; and if it is favourable
then a tracker can be made for the zones, with one record for each of them. -/
theorem validate_decides (s : Settings) :
    let checked := s.validate.1
    let names := s.probing.zones.map fun z => Text.foldCase (Text.trim z)
    checked = { s with probing := { s.probing with zones := checked.probing.zones } } ∧
      (∀ z, z ∈ checked.probing.zones ↔ z ∈ names ∧ z ≠ "") ∧
      checked.probing.zones.Pairwise (fun a b => names.idxOf a < names.idxOf b) ∧
      checked.validate = s.validate ∧
      (s.validate.2 = none ↔ checked.Fit) ∧
      (s.validate.2 = none → ∃ t, HealthTracker.ofZones checked.probing.zones = .ok t ∧
        t.records.length = checked.probing.zones.length) := by
  intro checked names
  have hverdict : s.validate.2 = none ↔ checked.Fit := s.normalized.fault?_eq_none_iff_fit
  refine ⟨rfl, fun z => ?_, pairwise_normalizedZones s.probing.zones, ?_, hverdict, fun hfit => ?_⟩
  · exact mem_normalizedZones.trans (and_comm.trans (and_congr_left fun _ => List.mem_map.symm))
  · exact congrArg (fun n => (n, n.fault?)) s.normalized_normalized
  · have hzones : checked.probing.zones ≠ [] := (hverdict.1 hfit).zones
    refine ⟨_, if_neg fun hnone => hzones (List.isEmpty_iff.1 hnone), ?_⟩
    have hnodup : checked.probing.zones.Nodup := nodup_normalizedZones s.probing.zones
    have hsame : (Text.sortNames checked.probing.zones).Perm checked.probing.zones :=
      (List.perm_ext_iff_of_nodup (Text.nodup_sortNames _) hnodup).2 fun _ => Text.mem_sortNames
    rw [List.length_map, hsame.length_eq]

/-- Four names of which one is blank and one repeats the first in other letters, between blanks that
are no spaces; all values are at the end of their range. -/
theorem validate_decides_repeated :
    let s : Settings :=
      { Settings.standard with
        probing := ⟨["\u3000B.Example", " ", "a.example", "b.EXAMPLE\x85"], 60, 100, true⟩
        priority := ⟨99, 100⟩
        tickets := some { TicketSettings.standard with
          server := "https://", user := "u", token := " t", project := "OPS" } }
    s.validate.1.probing.zones = ["b.example", "a.example"] ∧ s.validate.2 = none ∧
      s.validate.1.validate = s.validate ∧ s.validate.1.Fit ∧
      ∃ t, HealthTracker.ofZones ["b.example", "a.example"] = .ok t ∧ t.records.length = 2 := by
  intro s
  have hzones : s.validate.1.probing.zones = ["b.example", "a.example"] := by decide +kernel
  have hverdict : s.validate.2 = none := by decide +kernel
  obtain ⟨-, -, -, hagain, hfit, htracker⟩ := s.validate_decides
  rw [hzones] at htracker
  exact ⟨hzones, hverdict, hagain, hfit.1 hverdict, htracker hverdict⟩

end Settings

end BlocklistWatch
