import BlocklistWatch.Proofs.Probe.FanOut

/-!
# A check that its tracker refuses

A tracker that lacks a zone of a check refuses the result of that zone, and the check fails. Results
are taken in the order of the zones, so it fails at the least zone that the tracker lacks, whatever
order the probes end in; the zones before that one have been counted, those after it may have been.

* `HealthTracker.CountedUpTo` says what such a check leaves in the tracker.
* `Check.Sound.refused_least` reads the refused zone and what was counted off a sound check.
* `checkAddress_refused_least` is the check by the clock, `checkAddress_refuses` all checks.
-/

namespace BlocklistWatch

/-- A tracker before and after a check of some zones that stopped at one of them: each smaller zone
was counted once, any other zone of the check at most once, and nothing else was touched. -/
structure HealthTracker.CountedUpTo (zones : List String) (stop : String)
    (verdict : String → Verdict) (t t' : HealthTracker) : Prop where
  started : t'.started = t.started
  tracked : t'.zones = t.zones
  before : ∀ zone ∈ zones, zone < stop → ∃ r, t.record? zone = some r ∧
    t'.record? zone = some (r.after (verdict zone))
  beyond : ∀ zone ∈ zones, ∀ r, t.record? zone = some r →
    t'.record? zone = some r ∨ t'.record? zone = some (r.after (verdict zone))
  others : ∀ zone, zone ∉ zones → t'.record? zone = t.record? zone

theorem HealthTracker.countedUpTo_notedAt {t : HealthTracker} {zones : List String} {stop : String}
    {chosen : String → Bool} {verdict : String → Verdict}
    (hbefore : ∀ zone ∈ zones, zone < stop → zone ∈ t.zones ∧ chosen zone = true)
    (hothers : ∀ zone, zone ∉ zones → chosen zone = false) :
    CountedUpTo zones stop verdict t (t.notedAt chosen verdict) := by
  refine ⟨rfl, zones_notedAt, fun zone hzone hless => ?_, fun zone _ r hr => ?_,
    fun zone hzone => ?_⟩
  · obtain ⟨hmem, hchosen⟩ := hbefore zone hzone hless
    obtain ⟨r, hr⟩ := exists_record?_of_mem hmem
    refine ⟨r, hr, ?_⟩
    rw [record?_notedAt, hr, Option.map_some, if_pos hchosen]
  · rw [record?_notedAt, hr, Option.map_some]
    cases chosen zone with
    | true => exact .inr rfl
    | false => exact .inl rfl
  · rw [record?_notedAt, hothers zone hzone]
    simp only [Bool.false_eq_true, if_false, Option.map_id']

/-! ## The zone that is refused -/

/-- The least of some zones that are not among the configured ones. -/
structure LeastLacking (configured zones : List String) (zone : String) : Prop where
  listed : zone ∈ zones
  lacking : zone ∉ configured
  least : ∀ z ∈ zones, z ∉ configured → zone ≤ z

theorem LeastLacking.unique {configured zones : List String} {y z : String}
    (hy : LeastLacking configured zones y) (hz : LeastLacking configured zones z) : y = z :=
  String.le_antisymm (hy.least z hz.listed hz.lacking) (hz.least y hy.listed hy.lacking)

section

variable {p : Prober} {ip : Ipv4} {configured zones : List String} {t : HealthTracker} {c : Check}

theorem HealthTracker.Since.knows_iff (ht : HealthTracker.Since configured t) (zone : String) :
    knows (some t) zone = true ↔ zone ∈ configured := by
  have hknows : knows (some t) zone = t.zones.contains zone := rfl
  rw [hknows, List.contains_iff_mem, ht.zones, Text.mem_sortNames]

/-- A sound check that was refused was refused at the least zone that the tracker lacks, when all
smaller zones had been counted. -/
theorem Check.Sound.refused_least (h : c.Sound p ip (some t) (Text.sortNames zones))
    (ht : HealthTracker.Since configured t) {e : TrackerError} (he : c.refusal = some e) :
    ∃ z, LeastLacking configured zones z ∧ e = .unknownZone z ∧
      ∃ t', c.tracker = some t' ∧ t.CountedUpTo zones z (p.verdict ip) t' := by
  obtain ⟨z, rest, hrest, hunknown, rfl⟩ := h.refused e he
  obtain ⟨done, hzones, -, hdone⟩ := h.taken
  rw [hrest] at hzones
  have hmem : ∀ zone, zone ∈ zones ↔ zone ∈ done ∨ zone = z ∨ zone ∈ rest := by
    intro zone
    rw [← Text.mem_sortNames, hzones, List.mem_append, List.mem_cons]
  -- The zones are in increasing order, those taken before the refused one.
  have hsorted := Text.pairwise_sortNames zones
  rw [hzones] at hsorted
  obtain ⟨-, htail, hbefore⟩ := List.pairwise_append.1 hsorted
  have hbeyond : ∀ zone ∈ rest, z < zone := (List.pairwise_cons.1 htail).1
  have hknown : ∀ zone ∈ done, zone ∈ configured := fun zone hzone =>
    (ht.knows_iff zone).1 (hdone zone hzone).2
  have hsmaller : ∀ zone ∈ zones, zone < z → zone ∈ done := by
    intro zone hzone hless
    rcases (hmem zone).1 hzone with hzone | rfl | hzone
    · exact hzone
    · exact absurd hless (String.lt_irrefl _)
    · exact absurd hless (String.lt_asymm (hbeyond zone hzone))
  refine ⟨z, ⟨(hmem z).2 (.inr (.inl rfl)), fun hz => ?_, fun zone hzone hlacking => ?_⟩, rfl,
    _, h.tracker, HealthTracker.countedUpTo_notedAt (fun zone hzone hless => ⟨?_, ?_⟩)
      fun zone hzone => ?_⟩
  · rw [(ht.knows_iff z).2 hz] at hunknown
    exact absurd hunknown (by simp)
  · rcases (hmem zone).1 hzone with hzone | rfl | hzone
    · exact absurd (hknown zone hzone) hlacking
    · exact String.le_refl _
    · exact String.not_lt.1 (String.lt_asymm (hbeyond zone hzone))
  · rw [ht.zones, Text.mem_sortNames]
    exact hknown zone (hsmaller zone hzone hless)
  · have hzone' := hsmaller zone hzone hless
    refine h.counted_of_taken (hdone zone hzone').1 (hdone zone hzone').2 fun hawaited => ?_
    rw [hrest] at hawaited
    exact String.lt_irrefl zone (hbefore zone hzone' zone hawaited)
  · exact h.not_counted fun hsort => hzone (Text.mem_sortNames.1 hsort)

theorem Check.Sound.awaited_ne_nil (h : c.Sound p ip (some t) (Text.sortNames zones))
    (ht : HealthTracker.Since configured t) (hlacks : ∃ zone ∈ zones, zone ∉ configured) :
    c.awaited ≠ [] := by
  intro hnone
  obtain ⟨zone, hzone, hlacking⟩ := hlacks
  obtain ⟨done, hzones, -, hdone⟩ := h.taken
  rw [hnone, List.append_nil] at hzones
  rw [← Text.mem_sortNames, hzones] at hzone
  exact hlacking ((ht.knows_iff zone).1 (hdone zone hzone).2)

end

/-! ## Whole checks -/

/-- The check by the clock, if the tracker lacks a zone. -/
theorem checkAddress_refused_least (p : Prober) (ip : Ipv4) {configured zones : List String}
    {t : HealthTracker} (limit : Nat) (ht : HealthTracker.Since configured t)
    (hlacks : ∃ zone ∈ zones, zone ∉ configured) :
    ∃ z, LeastLacking configured zones z ∧
      (checkAddress p (some t) ip zones limit).findings = .error (.refused (.unknownZone z)) ∧
      ∃ t', (checkAddress p (some t) ip zones limit).tracker = some t' ∧
        t.CountedUpTo zones z (p.verdict ip) t' := by
  have hzones : zones ≠ [] := by
    obtain ⟨zone, hzone, -⟩ := hlacks
    exact List.ne_nil_of_mem hzone
  have hnodup : ∀ u ∈ some t, u.zones.Nodup := fun u hu => Option.some.inj hu ▸ ht.nodup_zones
  obtain ⟨hsound, hsettled⟩ := Check.settled_run p ip hnodup (Text.nodup_sortNames zones)
    fun zone => mem_completionOrder p ip limit
  obtain ⟨e, he⟩ := Option.ne_none_iff_exists'.1 fun hnone =>
    hsound.awaited_ne_nil ht hlacks (hsettled hnone)
  obtain ⟨z, hleast, rfl, hcounted⟩ := hsound.refused_least ht he
  refine ⟨z, hleast, ?_⟩
  simp only [checkAddress, isEmpty_sortNames hzones, if_neg Bool.false_ne_true, he, true_and]
  exact hcounted

/-- A check of some zones of which the tracker lacks at least one is refused at the least of those:
by the clock, and in all orders in which the tasks can go on. They never get stuck before the refusal
and come to it after finitely many steps; from then on, whether the remaining tasks are called off or
not, every smaller zone stays counted once and no greater one is counted more than once. -/
theorem checkAddress_refuses (p : Prober) (ip : Ipv4) (zones : List String) (limit : Nat)
    {configured : List String} {t : HealthTracker} (ht : HealthTracker.Since configured t)
    (hlacks : ∃ zone ∈ zones, zone ∉ configured) :
    ∃ z, LeastLacking configured zones z ∧
      ((checkAddress p (some t) ip zones limit).findings = .error (.refused (.unknownZone z)) ∧
        ∃ t', (checkAddress p (some t) ip zones limit).tracker = some t' ∧
          t.CountedUpTo zones z (p.verdict ip) t') ∧
      ∀ n s, Tasks.Run p ip limit (Tasks.start (some t) (Text.sortNames zones)) n s →
        n ≤ (Text.sortNames zones).length * (p.timeout + 3) + 1 ∧
        (s.check.refusal = none → ∃ s', Tasks.Step p ip limit s s') ∧
        ∀ e, s.check.refusal = some e → e = .unknownZone z ∧
          ∃ t', s.check.tracker = some t' ∧ t.CountedUpTo zones z (p.verdict ip) t' := by
  obtain ⟨z, hleast, hclock⟩ := checkAddress_refused_least p ip limit ht hlacks
  refine ⟨z, hleast, hclock, fun n s hrun => ?_⟩
  have hnodup : ∀ u ∈ some t, u.zones.Nodup := fun u hu => Option.some.inj hu ▸ ht.nodup_zones
  have hdistinct := Text.nodup_sortNames zones
  have hsound := hrun.sound (Tasks.sound_start p ip (some t) _) hnodup hdistinct
  refine ⟨hrun.bounded hnodup hdistinct, fun hrefusal => ?_, fun e he => ?_⟩
  · exact hsound.progress hrefusal (hsound.check.awaited_ne_nil ht hlacks)
  · obtain ⟨y, hleast', rfl, hcounted⟩ := hsound.check.refused_least ht he
    rw [← hleast.unique hleast'] at hcounted ⊢
    exact ⟨rfl, hcounted⟩

/-- Of four zones, one named twice, the tracker lacks two; the look-up dies about the first zone, and
the tracker also has a zone that the check does not ask. -/
theorem checkAddress_refuses_after_dead :
    let script : LookupScript := ⟨⟨[], .noData, 3⟩, [], ["10.2.0.192.a.example"]⟩
    let p : Prober := ⟨fun _ => script.lookup, 5⟩
    let tracker : HealthTracker :=
      ⟨[.fresh "a.example", .fresh "c.example", .fresh "e.example"], 0⟩
    let r := checkAddress p (some tracker) ⟨192, 0, 2, 10⟩
      ["d.example", "b.example", "a.example", "c.example", "b.example"] 2
    r.findings = .error (.refused (.unknownZone "b.example")) ∧
      ∃ t', r.tracker = some t' ∧
        t'.record? "a.example" = some ((ZoneRecord.fresh "a.example").after
          (.unknown .unknownError
            "task panicked with message \"lookup blew up for 10.2.0.192.a.example\"")) ∧
        t'.record? "e.example" = some (.fresh "e.example") := by
  intro script p tracker r
  have hbuilt : HealthTracker.Since ["e.example", "c.example", "a.example"] tracker :=
    .built (by decide)
  obtain ⟨z, hleast, ⟨hfindings, t', ht', hcounted⟩, -⟩ := checkAddress_refuses p ⟨192, 0, 2, 10⟩
    ["d.example", "b.example", "a.example", "c.example", "b.example"] 2 hbuilt
    ⟨"d.example", by decide, by decide⟩
  have hhere : LeastLacking ["e.example", "c.example", "a.example"]
      ["d.example", "b.example", "a.example", "c.example", "b.example"] "b.example" :=
    ⟨by decide, by decide, by decide⟩
  obtain rfl := hleast.unique hhere
  refine ⟨hfindings, t', ht', ?_, hcounted.others "e.example" (by decide)⟩
  obtain ⟨first, hfirst, hafter⟩ := hcounted.before "a.example" (by decide) (by decide)
  have hfresh : tracker.record? "a.example" = some (.fresh "a.example") := by decide
  have hdead : p.verdict ⟨192, 0, 2, 10⟩ "a.example" = .unknown .unknownError
      "task panicked with message \"lookup blew up for 10.2.0.192.a.example\"" := by decide +kernel
  rw [← Option.some.inj (hfresh.symm.trans hfirst), hdead] at hafter
  exact hafter

end BlocklistWatch
