import BlocklistWatch.Proofs.Config.Normalized
import BlocklistWatch.Proofs.Monitor.Outage
import BlocklistWatch.Proofs.Zone.QueryName

/-!
# Which of the configured zones a run asks

Zone names are looked at twice: checking the settings brings them into form, and whoever asks a zone
first has its name accepted. A name in form is trimmed and not empty already, so it is accepted as
it is unless it starts with a dot or holds a blank, which nothing keeps out of the settings. A zone
with such a name is never asked, each of its checks counts as failed, and whatever the look-ups say
it is among the broken zones.

* `ZoneName.accept_of_mem_normalizedZones` is the second look at a name after the first.
* `Prober.finding_of_accept` and `Prober.finding_of_refused` are a probe by what comes of its name,
  `checkQueries_of_normalized` all names that are asked for about an address.
* `Collaborators.run_asks_well_shaped` is a whole run over checked settings.
* `Collaborators.zone_never_asked`: settings that pass the check and a zone that is broken although
  every look-up gives a definite answer.
-/

namespace BlocklistWatch

variable {σ ε τ ρ φ : Type}

/-! ## Names in form -/

namespace ZoneName

/-- No leading dot and no blank anywhere. -/
def WellShaped (zone : String) : Prop :=
  zone.toList.head? ≠ some '.' ∧ ∀ c ∈ zone.toList, Text.isBlank c = false

theorem wellShaped_iff (zone : String) :
    (zone.toList.head? != some '.' && !zone.toList.any Text.isBlank) = true ↔ WellShaped zone := by
  simp [WellShaped]

instance (zone : String) : Decidable (WellShaped zone) :=
  decidable_of_iff _ (wellShaped_iff zone)

variable {zone : String} {zones : List String}

theorem acceptable_iff_of_mem_normalizedZones (h : zone ∈ normalizedZones zones) :
    Acceptable zone.toList ↔ WellShaped zone :=
  ⟨fun hacceptable => hacceptable.2,
    fun hshaped => ⟨toList_ne_nil_of_mem_normalizedZones h, hshaped⟩⟩

/-- A name in form is accepted as it is or not at all. -/
theorem accept_of_mem_normalizedZones (h : zone ∈ normalizedZones zones) :
    accept zone = if WellShaped zone then .ok zone else .error (.badZone zone) := by
  have htrim : Text.trim zone = zone := trim_of_mem_normalizedZones h
  have hchars : Text.trimBlanks zone.toList = zone.toList := by
    rw [← Text.toList_trim, htrim]
  simp only [accept, hchars, htrim, acceptable_iff_of_mem_normalizedZones h]

end ZoneName

/-! ## Probes by the name of their zone -/

/-- What the reply about an address at a zone means, waited for until the deadline. -/
def Reply.finding (ip : Ipv4) (zone : String) (deadline : Nat) (r : Reply) : Finding :=
  match r.await deadline with
  | .outcome o => .ofOutcome ip zone o
  | .death reason => .ofDeath ip zone reason

namespace Prober

variable {zone : String}

theorem finding_of_accept {accepted : String} (h : ZoneName.accept zone = .ok accepted)
    (p : Prober) (ip : Ipv4) :
    p.finding ip zone =
      (p.lookup zone (QueryName.ofAddress ip accepted)).finding ip zone p.timeout := by
  have hquery : probeQuery ip zone = .ok (QueryName.ofAddress ip accepted) := by
    rw [probeQuery, h]
    rfl
  simp only [finding, probe, hquery, Reply.finding]
  cases (p.lookup zone (QueryName.ofAddress ip accepted)).await p.timeout <;> rfl

/-- What the look-up would answer makes no difference. -/
theorem finding_of_refused {e : NameError} (h : ZoneName.accept zone = .error e) (p : Prober)
    (ip : Ipv4) : p.finding ip zone = .unknown ip zone .unknownError e.message := by
  have hquery : probeQuery ip zone = .error e := by
    rw [probeQuery, h]
    rfl
  simp only [finding, probe, hquery]
  rfl

end Prober

theorem probeQuery_of_mem_normalizedZones {zone : String} {zones : List String}
    (h : zone ∈ normalizedZones zones) (ip : Ipv4) :
    (probeQuery ip zone).toOption =
      if ZoneName.WellShaped zone then some (QueryName.ofAddress ip zone) else none := by
  rw [probeQuery, ZoneName.accept_of_mem_normalizedZones h]
  split <;> rfl

/-- About an address the zones are asked in order, those apart whose name is not well shaped. -/
theorem checkQueries_of_normalized {zones : List String} {settled : List String}
    (h : ∀ zone ∈ settled, zone ∈ normalizedZones zones) (ip : Ipv4) :
    checkQueries ip settled =
      ((Text.sortNames settled).filter fun zone => ZoneName.WellShaped zone).map
        (QueryName.ofAddress ip) := by
  have hqueries : ∀ zone ∈ Text.sortNames settled, (probeQuery ip zone).toOption =
      if ZoneName.WellShaped zone then some (QueryName.ofAddress ip zone) else none :=
    fun zone hzone => probeQuery_of_mem_normalizedZones (h zone (Text.mem_sortNames.1 hzone)) ip
  rw [checkQueries, List.filterMap_congr hqueries, ← List.filterMap_eq_map, List.filterMap_filter]
  simp only [decide_eq_true_eq, Function.comp_apply]

/-! ## Whole runs -/

/-- A check of a zone that gives no definite answer: the zone is not asked, or what comes of the
reply leaves the question open. -/
def CheckFails (settings : Settings) (v : Visit) (zone : String) : Prop :=
  ZoneName.WellShaped zone →
    ((v.lookup zone (QueryName.ofAddress v.state.address zone)).finding v.state.address zone
      settings.probing.timeoutMs).verdict.status = .unknown

instance (settings : Settings) (v : Visit) (zone : String) :
    Decidable (CheckFails settings v zone) :=
  inferInstanceAs (Decidable (_ → _))

theorem checkFails_iff {settings : Settings} {zone : String} {zones : List String}
    (h : zone ∈ normalizedZones zones) (v : Visit) :
    CheckFails settings v zone ↔
      ((RunState.prober settings v.lookup).verdict v.state.address zone).status = .unknown := by
  have haccept := ZoneName.accept_of_mem_normalizedZones h
  rw [Prober.verdict]
  by_cases hshaped : ZoneName.WellShaped zone
  · rw [if_pos hshaped] at haccept
    rw [Prober.finding_of_accept haccept]
    exact ⟨fun hfails => hfails hshaped, fun hopen _ => hopen⟩
  · rw [if_neg hshaped] at haccept
    rw [Prober.finding_of_refused haccept]
    exact ⟨fun _ => rfl, fun _ hpos => absurd hpos hshaped⟩

namespace RunState

/-- The record of a zone after a visit to each address: one check for each, of which those count as
failed whose verdict leaves the question open. -/
theorem exists_record_stock (c : Collaborators σ ε τ ρ φ) (settings : Settings) (moment : Moment)
    (durationMs : Nat) (store : σ) (desk : τ) (vs : List Visit) {zone : String}
    (hzone : zone ∈ settings.probing.zones) :
    ∃ r ∈ (stock c settings moment durationMs store desk vs).records, r.zone = zone ∧
      r.performed = vs.length ∧ r.failed = vs.countP fun v =>
        ((prober settings v.lookup).verdict v.state.address zone).status = .unknown := by
  have hrecords : (stock c settings moment durationMs store desk vs).records =
      (Text.sortNames settings.probing.zones).map fun zone =>
        (ZoneRecord.fresh zone).afterAll (vs.map fun v =>
          (prober settings v.lookup).verdict v.state.address zone) :=
    records_run c settings store desk vs
  rw [hrecords]
  refine ⟨_, List.mem_map_of_mem (Text.mem_sortNames.2 hzone), ZoneRecord.zone_afterAll _ _, ?_, ?_⟩
  · rw [ZoneRecord.performed_afterAll, List.length_map]
    exact Nat.zero_add _
  · rw [ZoneRecord.failed_afterAll, List.countP_map]
    exact Nat.zero_add _

end RunState

namespace Collaborators

open RunState

/-- A run over checked settings. About an address the zones with well-shaped names are asked, each
under its name as it is in the settings, and no others. A check that is not asked counts as failed
like one whose look-up leaves the question open, so a zone whose name is not well shaped is broken
as soon as there is an address, and any other zone if no look-up about an address gives a definite
answer. -/
theorem run_asks_well_shaped (c : Collaborators σ ε τ ρ φ) (settings : Settings) (moment : Moment)
    (durationMs : Nat) (store : σ) (desk : τ) (reports : ρ) {o : RunOutcome}
    (ho : (c.run settings.validate.1 moment durationMs store desk reports).outcome = .ok o) :
    ∃ states store', c.store.fetch store = (.ok states, store') ∧
      (∀ ip, checkQueries ip settings.validate.1.probing.zones =
        ((Text.sortNames settings.validate.1.probing.zones).filter fun zone =>
          ZoneName.WellShaped zone).map (QueryName.ofAddress ip)) ∧
      o.summary.brokenZones = o.summary.brokenZoneNames.length ∧
      ∀ zone ∈ settings.validate.1.probing.zones,
        ZoneName.accept zone =
          (if ZoneName.WellShaped zone then .ok zone else .error (.badZone zone)) ∧
        (∃ r ∈ o.summary.records, r.zone = zone ∧ r.performed = states.length ∧
          r.failed = (c.visits states).countP fun v => CheckFails settings v zone) ∧
        (zone ∈ o.summary.brokenZoneNames ↔
          states ≠ [] ∧ ∀ v ∈ c.visits states, CheckFails settings v zone) := by
  obtain ⟨hzones, states, store', hfetch⟩ :=
    c.fetched_of_ok settings.validate.1 moment durationMs store desk reports ho
  obtain ⟨-, -, hok, -⟩ := c.run_frame hzones hfetch moment durationMs desk reports
  have hsummary : o.summary =
      stock c settings.validate.1 moment durationMs store' desk (c.visits states) := (hok o ho).1
  refine ⟨states, store', hfetch, checkQueries_of_normalized fun _ h => h, ?_,
    fun zone hzone => ⟨ZoneName.accept_of_mem_normalizedZones hzone, ?_, ?_⟩⟩
  · rw [hsummary]
    exact brokenZones_stock ..
  · rw [hsummary]
    obtain ⟨r, hr, hrzone, hperformed, hfailed⟩ := exists_record_stock c settings.validate.1 moment
      durationMs store' desk (c.visits states) hzone
    refine ⟨r, hr, hrzone, hperformed.trans (c.length_visits states),
      hfailed.trans (List.countP_congr fun v _ => ?_)⟩
    rw [decide_eq_true_eq, decide_eq_true_eq]
    exact (checkFails_iff hzone v).symm
  · rw [hsummary, mem_brokenZoneNames, isDead_iff, and_iff_right hzone, ne_eq,
      c.visits_eq_nil_iff]
    exact and_congr_right fun _ => forall₂_congr fun v _ => (checkFails_iff hzone v).symm

/-- Two addresses at three zones. The first zone has a leading dot, the second a blank inside, and
the third answers about the first address only. -/
theorem run_asks_well_shaped_one_of_three :
    let settings : Settings :=
      { Settings.standard with
        probing := ⟨[" .BL.example ", "A b", "c.example", "a B\n"], 5, 10, false⟩ }
    let states : List IpState :=
      [⟨1, ⟨192, 0, 2, 1⟩, 50, none, .empty, none⟩, ⟨2, ⟨192, 0, 2, 2⟩, 50, none, .empty, none⟩]
    let lookup : Lookup := fun name =>
      if name = "2.2.0.192.c.example" then .silence else .answer (.noName none) 10
    let c : Collaborators Unit Unit Nat Unit Unit :=
      ⟨⟨fun store => (.ok states, store), fun _ _ _ store => (.ok true, store)⟩, .silent,
        ⟨fun _ reports => (.ok [], reports)⟩, fun _ _ => lookup, fun _ => .silence,
        fun _ => .silence⟩
    let r := c.run settings.validate.1 ⟨0, 0⟩ 0 () 0 ()
    settings.validate.2 = none ∧
      settings.validate.1.probing.zones = [".bl.example", "a b", "c.example"] ∧
      checkQueries ⟨192, 0, 2, 1⟩ settings.validate.1.probing.zones = ["1.2.0.192.c.example"] ∧
      ∃ o, r.outcome = .ok o ∧ ".bl.example" ∈ o.summary.brokenZoneNames ∧
        "a b" ∈ o.summary.brokenZoneNames ∧ "c.example" ∉ o.summary.brokenZoneNames ∧
        ∃ z ∈ o.summary.records, z.zone = "c.example" ∧ z.performed = 2 ∧ z.failed = 1 := by
  intro settings states lookup c r
  have hform : settings.validate.1.probing.zones = [".bl.example", "a b", "c.example"] := by
    decide +kernel
  have hzones : settings.validate.1.probing.zones ≠ [] := by
    rw [hform]
    exact List.cons_ne_nil _ _
  have hfetch : c.store.fetch () = (.ok states, ()) := rfl
  have hrun : r = _ := c.run_eq hzones hfetch ⟨0, 0⟩ 0 0 ()
  obtain ⟨o, ho⟩ : ∃ o, r.outcome = .ok o := by
    rw [hrun]
    exact ⟨_, rfl⟩
  obtain ⟨fetched, store', hfetched, hqueries, -, hzone⟩ :=
    c.run_asks_well_shaped settings ⟨0, 0⟩ 0 () 0 () ho
  obtain rfl : states = fetched := Except.ok.inj (Prod.ext_iff.1 hfetched).1
  rw [hform] at hqueries hzone
  have hdot : ¬ ZoneName.WellShaped ".bl.example" := by decide +kernel
  have hblank : ¬ ZoneName.WellShaped "a b" := by decide +kernel
  obtain ⟨-, -, hbroken⟩ := hzone ".bl.example" (by decide)
  obtain ⟨-, -, hbroken'⟩ := hzone "a b" (by decide)
  obtain ⟨-, ⟨z, hz, hname, hperformed, hfailed⟩, hkept⟩ := hzone "c.example" (by decide)
  refine ⟨by decide +kernel, hform, ?_, o, ho, ?_, ?_, ?_, z, hz, hname, hperformed, ?_⟩
  · rw [hform, hqueries]
    decide +kernel
  · exact hbroken.2 ⟨List.cons_ne_nil _ _, fun _ _ hshaped => absurd hshaped hdot⟩
  · exact hbroken'.2 ⟨List.cons_ne_nil _ _, fun _ _ hshaped => absurd hshaped hblank⟩
  · intro hdead
    let first : Visit := ⟨⟨1, ⟨192, 0, 2, 1⟩, 50, none, .empty, none⟩, fun _ => lookup⟩
    have hfirst : ¬ CheckFails settings.validate.1 first "c.example" := by decide +kernel
    exact hfirst ((hkept.1 hdead).2 first List.mem_cons_self)
  · rw [hfailed]
    decide +kernel

/-- A zone passes the check of the settings but is not accepted and never asked. All look-ups say at
once that nothing is listed, yet the zone is broken and makes the run report an outage. -/
theorem zone_never_asked :
    let settings : Settings :=
      { Settings.standard with probing := ⟨[" .BL.example ", "c.example"], 5, 10, true⟩ }
    let states : List IpState := [⟨1, ⟨192, 0, 2, 1⟩, 50, none, .empty, none⟩]
    let c : Collaborators Unit Unit Nat Unit Unit :=
      ⟨⟨fun store => (.ok states, store), fun _ _ _ store => (.ok true, store)⟩, .silent,
        ⟨fun _ reports => (.ok [], reports)⟩, fun _ _ _ => .answer (.noName none) 0,
        fun _ => .silence, fun _ => .silence⟩
    let summary := (c.run settings.validate.1 ⟨0, 0⟩ 0 () 0 ()).outcome.toOption.map (·.summary)
    settings.validate.2 = none ∧
      settings.validate.1.probing.zones = [".bl.example", "c.example"] ∧
      (ZoneName.accept ".bl.example").toOption = none ∧
      checkQueries ⟨192, 0, 2, 1⟩ settings.validate.1.probing.zones = ["1.2.0.192.c.example"] ∧
      summary.map (·.brokenZoneNames) = some [".bl.example"] ∧
      summary.map (·.issueDetected) = some true := by
  intro settings states c summary
  have hzones : settings.validate.1.probing.zones ≠ [] := by decide +kernel
  have hrun := c.run_eq hzones (rfl : c.store.fetch () = (.ok states, ())) ⟨0, 0⟩ 0 0 ()
  refine ⟨by decide +kernel, by decide +kernel, by decide +kernel, by decide +kernel, ?_, ?_⟩
  · simp only [summary, hrun]
    decide +kernel
  · simp only [summary, hrun]
    decide +kernel

end Collaborators

end BlocklistWatch
