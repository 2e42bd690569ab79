import BlocklistWatch.Proofs.Probe.Tasks

/-!
# A check of many zones is the checks of the single zones

Whatever the limit, the delays and the order in which the probes end: a check whose tracker knows all
zones succeeds, finds at each zone what probing that zone alone finds, and counts each zone once.

* `Prober.Finds` spells out what probing one zone alone finds.
* `checkAddress_of_knows` is the check by the clock, `checkAddress_eq_alone` all checks.
* `checkAddress_eq_of_agreeOn` says which names a check asks for.
-/

namespace BlocklistWatch

/-! ## One zone alone -/

/-- What a prober finds at one zone, by the name that it asks for and the reply to it. -/
inductive Prober.Finds (p : Prober) (ip : Ipv4) (zone : String) : Verdict → Prop
  /-- The zone's name cannot be asked for. -/
  | unaskable {e : NameError} :
      probeQuery ip zone = .error e → Finds p ip zone (.unknown .unknownError e.message)
  /-- There is no reply up to the deadline. -/
  | late {query : String} :
      probeQuery ip zone = .ok query →
      (∀ due, (p.lookup zone query).due? = some due → p.timeout < due) →
      Finds p ip zone (.unexplained .timeout)
  /-- The look-up dies before the deadline. -/
  | dead {query reason : String} {after : Nat} :
      probeQuery ip zone = .ok query → p.lookup zone query = .death reason after →
      after ≤ p.timeout →
      Finds p ip zone
        (.unknown .unknownError ("task panicked with message " ++ Text.quoted reason))
  /-- There is an answer in time. -/
  | answered {query : String} {outcome : Outcome} {after : Nat} :
      probeQuery ip zone = .ok query → p.lookup zone query = .answer outcome after →
      after ≤ p.timeout → Finds p ip zone (.ofOutcome zone outcome)

theorem Reply.await_of_late {deadline : Nat} {r : Reply}
    (h : ∀ due, r.due? = some due → deadline < due) : r.await deadline = .outcome .timeout := by
  cases r with
  | answer outcome after => exact if_neg (Nat.not_le.2 (h after rfl))
  | death reason after => exact if_neg (Nat.not_le.2 (h after rfl))
  | silence => rfl

namespace Prober

variable {p : Prober} {ip : Ipv4} {zone : String}

theorem finds_verdict (p : Prober) (ip : Ipv4) (zone : String) :
    p.Finds ip zone (p.verdict ip zone) := by
  unfold verdict finding probe
  cases hquery : probeQuery ip zone with
  | error e => exact .unaskable hquery
  | ok query =>
    simp only
    by_cases hlate : ∀ due, (p.lookup zone query).due? = some due → p.timeout < due
    · rw [Reply.await_of_late hlate]
      exact .late hquery hlate
    · simp only [not_forall, Nat.not_lt] at hlate
      obtain ⟨due, hsome, hdue⟩ := hlate
      cases hreply : p.lookup zone query with
      | answer outcome after =>
        rw [hreply, Reply.due?, Option.some.injEq] at hsome
        subst hsome
        simp only [Reply.await, if_pos hdue]
        exact .answered hquery hreply hdue
      | death reason after =>
        rw [hreply, Reply.due?, Option.some.injEq] at hsome
        subst hsome
        simp only [Reply.await, if_pos hdue]
        exact .dead hquery hreply hdue
      | silence =>
        rw [hreply, Reply.due?] at hsome
        exact absurd hsome (by simp)

theorem Finds.unique {v : Verdict} (h : p.Finds ip zone v) : v = p.verdict ip zone := by
  unfold verdict finding probe
  cases h with
  | unaskable hquery =>
    rw [hquery]
    rfl
  | late hquery hlate =>
    rw [hquery]
    simp only [Reply.await_of_late hlate]
    rfl
  | dead hquery hreply hdue =>
    rw [hquery]
    simp only [hreply, Reply.await, if_pos hdue]
    rfl
  | answered hquery hreply hdue =>
    rw [hquery]
    simp only [hreply, Reply.await, if_pos hdue]
    rfl

end Prober

/-! ## By the clock -/

theorem zones_spans (p : Prober) (ip : Ipv4) (limit : Nat) (zones : List String) :
    (p.spans ip limit zones).map (·.zone) = zones := by
  have hlength : zones.length ≤ (schedule limit (zones.map (p.duration ip))).length := by
    rw [length_schedule, List.length_map]
  rw [Prober.spans, ← List.map_uncurry_zip_eq_zipWith, List.map_map]
  exact List.map_fst_zip hlength

theorem mem_completionOrder (p : Prober) (ip : Ipv4) (limit : Nat) {zones : List String}
    {zone : String} : zone ∈ completionOrder (p.spans ip limit zones) ↔ zone ∈ zones := by
  have hperm := (List.mergeSort_perm (p.spans ip limit zones)
    fun a b => decide (a.span.finish ≤ b.span.finish)).map (·.zone)
  rw [zones_spans] at hperm
  exact hperm.mem_iff

theorem isEmpty_sortNames {zones : List String} (h : zones ≠ []) :
    (Text.sortNames zones).isEmpty = false := by
  obtain ⟨zone, rest, rfl⟩ := List.exists_cons_of_ne_nil h
  cases hsorted : Text.sortNames (zone :: rest) with
  | cons _ _ => rfl
  | nil =>
    have hmem : zone ∈ Text.sortNames (zone :: rest) :=
      Text.mem_sortNames.2 (List.mem_cons_self ..)
    rw [hsorted] at hmem
    exact absurd hmem (by simp)

/-- The check by the clock, if the tracker knows the zones: each is found as it is found alone, and
each is counted once. -/
theorem checkAddress_of_knows (p : Prober) {tracker : Option HealthTracker} (ip : Ipv4)
    {zones : List String} (limit : Nat) (hzones : zones ≠ [])
    (hnodup : ∀ t ∈ tracker, t.zones.Nodup)
    (hknows : ∀ zone ∈ zones, knows tracker zone = true) :
    (checkAddress p tracker ip zones limit).findings =
        .ok ((Text.sortNames zones).map (p.finding ip)) ∧
      (checkAddress p tracker ip zones limit).tracker =
        tracker.map
          (·.notedAt (fun z => (Text.sortNames zones).contains z) (p.verdict ip)) := by
  have hall : ∀ zone ∈ Text.sortNames zones, knows tracker zone = true := fun zone hzone =>
    hknows zone (Text.mem_sortNames.1 hzone)
  obtain ⟨hsound, hdone⟩ := Check.run_complete p ip hnodup (Text.nodup_sortNames zones) hall
    fun zone => mem_completionOrder p ip limit
  obtain ⟨hrefusal, htaken, htracker⟩ := hsound.complete hdone
  have hresults := hsound.results_eq (Text.pairwise_sortNames zones)
  simp only [checkAddress, isEmpty_sortNames hzones, if_neg Bool.false_ne_true, hrefusal, hresults]
  exact ⟨congrArg _ htaken, htracker⟩

/-! ## The names that are asked for -/

theorem mem_checkQueries {ip : Ipv4} {zones : List String} {query : String} :
    query ∈ checkQueries ip zones ↔ ∃ zone ∈ zones, probeQuery ip zone = .ok query := by
  simp only [checkQueries, List.mem_filterMap, Text.mem_sortNames]
  refine exists_congr fun zone => and_congr_right fun _ => ?_
  cases probeQuery ip zone with
  | error e =>
    constructor
    · intro h
      cases h
    · intro h
      cases h
  | ok asked =>
    exact ⟨fun h => congrArg _ (Option.some.inj h), fun h => congrArg _ (Except.ok.inj h)⟩

section SameReplies

variable {p p' : Prober} {ip : Ipv4} {zones : List String}

/-- Two probers that wait equally long and get the same replies to the names a check asks for. -/
structure Prober.AgreeOn (ip : Ipv4) (zones : List String) (p p' : Prober) : Prop where
  timeout : p'.timeout = p.timeout
  lookup : ∀ zone ∈ zones, ∀ query ∈ checkQueries ip zones,
    p'.lookup zone query = p.lookup zone query

theorem Prober.AgreeOn.probe_and_duration (h : AgreeOn ip zones p p') {zone : String}
    (hzone : zone ∈ zones) :
    p'.probe ip zone = p.probe ip zone ∧ p'.duration ip zone = p.duration ip zone := by
  unfold probe duration
  cases hquery : probeQuery ip zone with
  | error e => exact ⟨rfl, rfl⟩
  | ok query =>
    have hreply := h.lookup zone hzone query (mem_checkQueries.2 ⟨zone, hzone, hquery⟩)
    simp only [h.timeout, hreply, and_self]

theorem Check.finish_congr (c : Check) {probe probe' : String → ProbeEnd} {zone : String}
    (h : probe' zone = probe zone) : c.finish probe' zone = c.finish probe zone := by
  rw [Check.finish, Check.finish, h]

theorem Check.run_congr (c : Check) {order : List String}
    (h : ∀ zone ∈ order, p'.probe ip zone = p.probe ip zone) :
    c.run p' ip order = c.run p ip order := by
  refine List.foldl_ext _ _ c fun c zone hzone => ?_
  rw [c.finish_congr (h zone hzone)]

/-- A check asks for the names of its zones and for no others: what the look-ups would reply to any
other name has no part in it. -/
theorem checkAddress_eq_of_agreeOn (h : p.AgreeOn ip zones p') (tracker : Option HealthTracker)
    (limit : Nat) :
    checkAddress p' tracker ip zones limit = checkAddress p tracker ip zones limit := by
  have hzones : ∀ zone ∈ Text.sortNames zones, zone ∈ zones := fun _ => Text.mem_sortNames.1
  have hspans : p'.spans ip limit (Text.sortNames zones) =
      p.spans ip limit (Text.sortNames zones) := by
    rw [Prober.spans, Prober.spans, List.map_congr_left fun zone hzone =>
      (h.probe_and_duration (hzones zone hzone)).2]
  have hrun : ∀ c : Check, c.run p' ip (completionOrder (p.spans ip limit (Text.sortNames zones))) =
      c.run p ip (completionOrder (p.spans ip limit (Text.sortNames zones))) := fun c =>
    c.run_congr fun zone hzone =>
      (h.probe_and_duration (hzones zone ((mem_completionOrder p ip limit).1 hzone))).1
  simp only [checkAddress, hspans, hrun]

end SameReplies

/-! ## In any order -/

section Alone

variable {tracker : Option HealthTracker} {zones : List String}

theorem knows_of_since
    (htracker : ∀ t ∈ tracker, ∃ configured, HealthTracker.Since configured t ∧
      ∀ zone ∈ zones, zone ∈ configured) :
    (∀ t ∈ tracker, t.zones.Nodup) ∧ ∀ zone ∈ zones, knows tracker zone = true := by
  refine ⟨fun t ht => ?_, fun zone hzone => ?_⟩
  · obtain ⟨configured, hsince, -⟩ := htracker t ht
    exact hsince.nodup_zones
  · cases tracker with
    | none => rfl
    | some t =>
      obtain ⟨configured, hsince, hall⟩ := htracker t rfl
      have hmem : zone ∈ t.zones := by
        rw [hsince.zones, Text.mem_sortNames]
        exact hall zone hzone
      exact List.contains_iff_mem.2 hmem

theorem checkedOnce_of_knows (hknows : ∀ zone ∈ zones, knows tracker zone = true)
    (verdict : String → Verdict) :
    Option.Rel (HealthTracker.CheckedOnce zones verdict) tracker
      (tracker.map (·.notedAt (fun z => (Text.sortNames zones).contains z) verdict)) := by
  cases tracker with
  | none => exact .none
  | some t =>
    refine .some (HealthTracker.checkedOnce_notedAt (fun zone hzone => ?_) fun zone => ?_)
    · exact List.contains_iff_mem.1 (hknows zone hzone)
    · rw [List.contains_iff_mem, Text.mem_sortNames]

end Alone

/-- A check of some zones is the checks of the single zones in order, each found as `Prober.Finds`
says and counted once. That is so by the clock, and it is so for all orders in which the tasks can go
on: they never get stuck, and in the end their results are the same. -/
theorem checkAddress_eq_alone (p : Prober) (ip : Ipv4) (zones : List String)
    (tracker : Option HealthTracker) (limit : Nat) (hzones : zones ≠ [])
    (htracker : ∀ t ∈ tracker, ∃ configured, HealthTracker.Since configured t ∧
      ∀ zone ∈ zones, zone ∈ configured) :
    let distinct := Text.sortNames zones
    let alone := distinct.map (p.finding ip)
    (distinct.Pairwise (· < ·) ∧ (∀ zone, zone ∈ distinct ↔ zone ∈ zones) ∧
      alone.map (·.zone) = distinct ∧
      ∀ f ∈ alone, f.ip = ip ∧ ∀ v, p.Finds ip f.zone v ↔ v = f.verdict) ∧
    ((checkAddress p tracker ip zones limit).findings = .ok alone ∧
      Option.Rel (HealthTracker.CheckedOnce zones (p.verdict ip)) tracker
        (checkAddress p tracker ip zones limit).tracker) ∧
    ∀ n s, Tasks.Run p ip limit (Tasks.start tracker distinct) n s →
      n ≤ distinct.length * (p.timeout + 3) + 1 ∧ s.check.refusal = none ∧
      (s.check.awaited ≠ [] → ∃ s', Tasks.Step p ip limit s s') ∧
      (s.check.awaited = [] → s.check.taken.reverse = alone ∧
        Option.Rel (HealthTracker.CheckedOnce zones (p.verdict ip)) tracker s.check.tracker) := by
  intro distinct alone
  obtain ⟨hnodup, hknows⟩ := knows_of_since htracker
  have hall : ∀ zone ∈ distinct, knows tracker zone = true := fun zone hzone =>
    hknows zone (Text.mem_sortNames.1 hzone)
  have hdistinct : distinct.Nodup := Text.nodup_sortNames zones
  have hcounted := checkedOnce_of_knows hknows (p.verdict ip)
  refine ⟨⟨Text.pairwise_sortNames zones, fun _ => Text.mem_sortNames, ?_, ?_⟩, ?_, ?_⟩
  · simp [alone, Function.comp_def]
  · intro f hf
    obtain ⟨zone, -, rfl⟩ := List.mem_map.1 hf
    rw [Prober.zone_finding]
    refine ⟨p.ip_finding ip zone, fun v => ⟨Prober.Finds.unique, ?_⟩⟩
    rintro rfl
    exact p.finds_verdict ip zone
  · obtain ⟨hfindings, hafter⟩ := checkAddress_of_knows p ip limit hzones hnodup hknows
    refine ⟨hfindings, ?_⟩
    rw [hafter]
    exact hcounted
  · intro n s hrun
    have hsound := hrun.sound (Tasks.sound_start p ip tracker distinct) hnodup hdistinct
    have hrefusal := hsound.check.not_refused hall
    refine ⟨hrun.bounded hnodup hdistinct, hrefusal, hsound.progress hrefusal, fun hdone => ?_⟩
    obtain ⟨-, htaken, hafter⟩ := hsound.check.complete hdone
    refine ⟨htaken, ?_⟩
    rw [hafter]
    exact hcounted

/-- At two zones, one of them named twice, the look-up dies about one and answers too late about the
other. -/
theorem checkAddress_eq_alone_dead_and_late :
    let script : LookupScript :=
      ⟨⟨[], .noData, 0⟩, [("10.2.0.192.b.example", 9)], ["10.2.0.192.a.example"]⟩
    let p : Prober := ⟨fun _ => script.lookup, 5⟩
    let tracker : HealthTracker := ⟨[.fresh "a.example", .fresh "b.example"], 0⟩
    (checkAddress p (some tracker) ⟨192, 0, 2, 10⟩
        ["b.example", "a.example", "b.example"] 0).findings =
      .ok [⟨⟨192, 0, 2, 10⟩, "a.example", .unknown .unknownError
          "task panicked with message \"lookup blew up for 10.2.0.192.a.example\""⟩,
        ⟨⟨192, 0, 2, 10⟩, "b.example", .unexplained .timeout⟩] := by
  intro script p tracker
  have hbuilt : HealthTracker.Since ["b.example", "a.example"] tracker := .built (by decide)
  have halone := checkAddress_eq_alone p ⟨192, 0, 2, 10⟩ ["b.example", "a.example", "b.example"]
    (some tracker) 0 (by decide) fun t ht => ⟨_, Option.some.inj ht ▸ hbuilt, by decide⟩
  rw [halone.2.1.1]
  decide +kernel

end BlocklistWatch
