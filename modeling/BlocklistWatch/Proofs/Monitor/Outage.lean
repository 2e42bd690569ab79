import Mathlib.Data.List.Dedup
import BlocklistWatch.Proofs.Decimal.Binary64
import BlocklistWatch.Proofs.Monitor.Order

/-!
# When a run reports an outage

Every address is asked about at every zone, so after a run the record of a zone counts one check for
each address. A zone is dead if there were addresses and it gave a definite answer about none of
them. An outage is detected if at least half of the zones are dead and no public resolver delivered
an address of the name that is always there.

* `IsDead` and `Lookup.Delivers` say these two things by the look-ups alone.
* `isWidespread_iff`: the share of broken zones, a double-precision number, is compared with one
  half as the counts themselves compare.
* `RunState.records_foldl_visit` gives the records after any addresses, and
  `RunState.mem_brokenZoneNames` reads the dead zones off them.
* `Collaborators.run_outage` is the whole run: the flag, the zones and the report.
-/

namespace BlocklistWatch

variable {σ ε τ ρ φ : Type}

/-! ## Zones and resolvers -/

/-- Some address was checked, and whatever a probe of the zone found about any of them was no
answer. -/
def IsDead (settings : Settings) (vs : List Visit) (zone : String) : Prop :=
  vs ≠ [] ∧ ∀ v ∈ vs, ∀ verdict,
    (RunState.prober settings v.lookup).Finds v.state.address zone verdict →
      verdict.status = .unknown

theorem isDead_iff {settings : Settings} {vs : List Visit} {zone : String} :
    IsDead settings vs zone ↔
      vs ≠ [] ∧ ∀ v ∈ vs,
        ((RunState.prober settings v.lookup).verdict v.state.address zone).status = .unknown := by
  refine and_congr_right fun _ => forall₂_congr fun v _ => ⟨fun h => ?_, fun h verdict hfinds => ?_⟩
  · exact h _ (Prober.finds_verdict _ _ _)
  · rw [hfinds.unique]
    exact h

/-- So few zones that a double-precision number counts them are compared exactly. -/
theorem isWidespread_iff {broken total : Nat} (hbroken : broken ≤ total)
    (htotal : total ≤ Nat.pow 2 53) :
    isWidespread broken total = true ↔ 0 < total ∧ total ≤ 2 * broken :=
  Binary64.half_le_quotient_iff (hbroken.trans htotal) htotal

theorem isWidespread_zero_left (total : Nat) : isWidespread 0 total = false :=
  Binary64.half_le_quotient_zero_left total

/-- The look-up gives an address of the reference name within the timeout. -/
def Lookup.Delivers (lookup : Lookup) (timeout : Nat) : Prop :=
  ∃ found after, lookup "google.com" = .answer (.addresses found) after ∧ found ≠ [] ∧
    after ≤ timeout

theorem Lookup.isReachable_iff (lookup : Lookup) (timeout : Nat) :
    lookup.isReachable timeout = true ↔ lookup.Delivers timeout := by
  unfold isReachable Delivers referenceName
  cases lookup "google.com" with
  | silence => simp [Reply.await]
  | death reason after =>
    by_cases hdue : after ≤ timeout
    all_goals simp [Reply.await, hdue]
  | answer outcome after =>
    by_cases hdue : after ≤ timeout
    · cases outcome with
      | addresses found => simp [Reply.await, hdue]
      | _ => simp [Reply.await, hdue]
    · simp only [Reply.await, hdue, if_false, Bool.false_eq_true, false_iff]
      rintro ⟨found, after', hreply, -, hdue'⟩
      exact hdue ((Reply.answer.inj hreply).2 ▸ hdue')

theorem Collaborators.askOutside_allUnreachable (c : Collaborators σ ε τ ρ φ)
    (settings : Settings) :
    (c.askOutside settings).1.allUnreachable = true ↔
      settings.probing.networkCheck = true ∧
        ¬ c.cloudflare.Delivers settings.probing.timeoutMs ∧
        ¬ c.google.Delivers settings.probing.timeoutMs := by
  unfold askOutside
  by_cases hcheck : settings.probing.networkCheck = true
  · rw [if_pos hcheck, checkConnectivity, Connectivity.allUnreachable_ofCheck, Bool.and_eq_true,
      Bool.not_eq_true', Bool.not_eq_true', ← Bool.not_eq_true, ← Bool.not_eq_true,
      Lookup.isReachable_iff, Lookup.isReachable_iff]
    exact ⟨fun h => ⟨hcheck, h⟩, fun h => h.2⟩
  · rw [if_neg hcheck, Connectivity.allUnreachable_skipped]
    exact ⟨fun h => absurd h Bool.false_ne_true, fun h => absurd h.1 hcheck⟩

theorem Text.length_sortNames (names : List String) :
    (Text.sortNames names).length = names.dedup.length := by
  refine ((List.perm_ext_iff_of_nodup (Text.nodup_sortNames names) names.nodup_dedup).2 ?_).length_eq
  intro name
  rw [Text.mem_sortNames, List.mem_dedup]

/-! ## Records -/

namespace RunState

variable {c : Collaborators σ ε τ ρ φ} {settings : Settings} {s : RunState σ τ}

theorem records_visit (htracks : Tracks settings s) (v : Visit) :
    (visit c settings s v).tracker.records = s.tracker.records.map fun r =>
      r.after ((prober settings v.lookup).verdict v.state.address r.zone) := by
  rw [(visited c settings s v).2]
  refine List.map_congr_left fun r hr => if_pos ?_
  rw [List.contains_iff_mem, ← htracks]
  exact List.mem_map_of_mem hr

theorem records_foldl_visit (htracks : Tracks settings s) (vs : List Visit) :
    (vs.foldl (visit c settings) s).tracker.records = s.tracker.records.map fun r =>
      r.afterAll (vs.map fun v =>
        (prober settings v.lookup).verdict v.state.address r.zone) := by
  induction vs generalizing s with
  | nil => exact (List.map_id _).symm
  | cons v vs ih =>
    rw [List.foldl_cons, ih (tracks_visit htracks v), records_visit htracks v, List.map_map]
    refine List.map_congr_left fun r _ => ?_
    simp only [Function.comp_apply, ZoneRecord.zone_after]
    rfl

/-- The record of each zone after a visit to each address. -/
theorem records_run (c : Collaborators σ ε τ ρ φ) (settings : Settings) (store : σ) (desk : τ)
    (vs : List Visit) :
    (vs.foldl (visit c settings) (start settings store desk)).tracker.records =
      (Text.sortNames settings.probing.zones).map fun zone =>
        (ZoneRecord.fresh zone).afterAll (vs.map fun v =>
          (prober settings v.lookup).verdict v.state.address zone) := by
  rw [records_foldl_visit (tracks_start settings store desk), start, List.map_map]
  rfl

section Summary

variable (c : Collaborators σ ε τ ρ φ) (settings : Settings) (moment : Moment) (durationMs : Nat)
  (store : σ) (desk : τ) (vs : List Visit)

/-- What is taken stock of after a visit to each address. -/
def stock : HealthSummary :=
  (vs.foldl (visit c settings) (start settings store desk)).tracker.summarize
    (some (c.askOutside settings).1) moment durationMs

theorem brokenZoneNames_stock :
    (stock c settings moment durationMs store desk vs).brokenZoneNames =
      (Text.sortNames settings.probing.zones).filter fun zone =>
        ((ZoneRecord.fresh zone).afterAll (vs.map fun v =>
          (prober settings v.lookup).verdict v.state.address zone)).isBroken := by
  have hzone : ∀ zone : String, ((ZoneRecord.fresh zone).afterAll (vs.map fun v =>
      (prober settings v.lookup).verdict v.state.address zone)).zone = zone := by
    intro zone
    rw [ZoneRecord.zone_afterAll, ZoneRecord.zone_fresh]
  simp only [stock, HealthSummary.brokenZoneNames, HealthTracker.summarize, records_run,
    List.filter_map, List.map_map, Function.comp_def, hzone, List.map_id']

theorem mem_brokenZoneNames (zone : String) :
    zone ∈ (stock c settings moment durationMs store desk vs).brokenZoneNames ↔
      zone ∈ settings.probing.zones ∧ IsDead settings vs zone := by
  rw [brokenZoneNames_stock, List.mem_filter, Text.mem_sortNames,
    ZoneRecord.isBroken_afterAll_fresh, isDead_iff]
  simp only [ne_eq, List.map_eq_nil_iff, List.forall_mem_map]

theorem pairwise_brokenZoneNames :
    (stock c settings moment durationMs store desk vs).brokenZoneNames.Pairwise (· < ·) := by
  rw [brokenZoneNames_stock]
  exact (Text.pairwise_sortNames _).filter _

theorem brokenZones_stock :
    (stock c settings moment durationMs store desk vs).brokenZones =
      (stock c settings moment durationMs store desk vs).brokenZoneNames.length :=
  (List.length_map _).symm

theorem totalZones_stock :
    (stock c settings moment durationMs store desk vs).totalZones =
      settings.probing.zones.dedup.length := by
  rw [← Text.length_sortNames]
  simp only [stock, HealthTracker.summarize, records_run, List.length_map]

theorem length_brokenZoneNames_le :
    (stock c settings moment durationMs store desk vs).brokenZoneNames.length ≤
      settings.probing.zones.dedup.length := by
  rw [brokenZoneNames_stock, ← Text.length_sortNames]
  exact List.length_filter_le _ _

theorem issueDetected_stock :
    (stock c settings moment durationMs store desk vs).issueDetected = true ↔
      (c.askOutside settings).1.allUnreachable = true ∧
        isWidespread (stock c settings moment durationMs store desk vs).brokenZoneNames.length
          settings.probing.zones.dedup.length = true := by
  have hflag : (stock c settings moment durationMs store desk vs).issueDetected =
      (isWidespread (stock c settings moment durationMs store desk vs).brokenZones
        (stock c settings moment durationMs store desk vs).totalZones &&
          (c.askOutside settings).1.allUnreachable) := rfl
  rw [hflag, Bool.and_eq_true, and_comm, brokenZones_stock, totalZones_stock]

end Summary

end RunState

/-! ## Reports in a trace -/

/-- The share and the names of the broken zones in a request for an issue about an outage. -/
def Effect.outage? : Effect → Option (Binary64 × List String)
  | .ticket (.outage fraction zones) => some (fraction, zones)
  | _ => none

/-- About a transition nothing is said of an outage. -/
theorem Told.no_outage {tickets : TicketDesk τ} {t : Transition} {desk desk' : τ}
    {calls : List TicketCall} {action : TicketAction} (h : Told tickets t desk calls action desk') :
    (calls.map Effect.ticket).filterMap Effect.outage? = [] := by
  cases h <;> rfl

theorem HandledAll.no_outage {c : Collaborators σ ε τ ρ φ} {settings : Settings}
    {vs : List Visit} {w w' : σ × τ} {effects : List Effect}
    (h : HandledAll c settings vs w effects w') :
    effects.filterMap Effect.outage? = [] := by
  induction h with
  | nil => rfl
  | cons hfirst _ ih =>
    rw [List.filterMap_append, ih, List.append_nil]
    cases hfirst with
    | unchanged => rfl
    | logged => rfl
    | refused => rfl
    | accepted _ _ _ _ _ htold =>
      simp only [Effect.ofChange, List.cons_append, List.filterMap_cons, Effect.outage?,
        List.filterMap_append, htold.no_outage, List.filterMap_nil, List.append_nil]

theorem RunState.outage?_outageCalls (settings : Settings) (summary : HealthSummary) :
    ((outageCalls settings summary).map Effect.ticket).filterMap Effect.outage? =
      if summary.issueDetected = true ∧ settings.dryRun = false then
        [(summary.brokenFraction, summary.brokenZoneNames)]
      else [] := by
  unfold outageCalls
  cases summary.issueDetected <;> cases settings.dryRun <;> rfl

/-! ## Whole runs -/

namespace Collaborators

open RunState

/-- A run that comes to an end has fetched its states and had zones to ask. -/
theorem fetched_of_ok (c : Collaborators σ ε τ ρ φ) (settings : Settings) (moment : Moment)
    (durationMs : Nat) (store : σ) (desk : τ) (reports : ρ) {o : RunOutcome}
    (ho : (c.run settings moment durationMs store desk reports).outcome = .ok o) :
    settings.probing.zones ≠ [] ∧
      ∃ states store', c.store.fetch store = (.ok states, store') := by
  unfold run at ho
  rcases hfetch : c.store.fetch store with ⟨e | states, store'⟩
  · rw [hfetch] at ho
    exact absurd ho (by simp)
  · refine ⟨fun hzones => ?_, states, store', rfl⟩
    have hnone : HealthTracker.ofZones settings.probing.zones = .error .noZones := by
      rw [hzones]
      rfl
    rw [hfetch] at ho
    simp only [hnone] at ho
    exact absurd ho (by simp)

/-- A run that comes to an end detects an outage exactly if the network check is on, neither public
resolver delivers, and the share of the distinct zones that are dead, as a double-precision number,
is at least one half. For up to 2^53 zones, more than any memory holds, that is to say that at
least half of them are dead. The summary numbers and names the dead zones; without an address there
are none, and a definite answer about any address keeps its zone out. An issue about the outage is
asked for, with the dead zones, exactly if the flag is set and the run is not a dry one. -/
theorem run_outage (c : Collaborators σ ε τ ρ φ) (settings : Settings) (moment : Moment)
    (durationMs : Nat) (store : σ) (desk : τ) (reports : ρ) {o : RunOutcome}
    (ho : (c.run settings moment durationMs store desk reports).outcome = .ok o) :
    ∃ states store', c.store.fetch store = (.ok states, store') ∧
      let dead := o.summary.brokenZoneNames
      let unreached := settings.probing.networkCheck = true ∧
        ¬ c.cloudflare.Delivers settings.probing.timeoutMs ∧
        ¬ c.google.Delivers settings.probing.timeoutMs
      dead.Pairwise (· < ·) ∧
      (∀ zone, zone ∈ dead ↔
        zone ∈ settings.probing.zones ∧ IsDead settings (c.visits states) zone) ∧
      o.summary.brokenZones = dead.length ∧
      o.summary.totalZones = settings.probing.zones.dedup.length ∧
      (o.summary.issueDetected = true ↔
        unreached ∧ Binary64.half.le o.summary.brokenFraction = true) ∧
      (settings.probing.zones.dedup.length ≤ Nat.pow 2 53 →
        (o.summary.issueDetected = true ↔
          unreached ∧ settings.probing.zones.dedup.length ≤ 2 * dead.length)) ∧
      (states = [] → dead = [] ∧ o.summary.issueDetected = false) ∧
      (∀ v ∈ c.visits states, ∀ zone verdict,
        (prober settings v.lookup).Finds v.state.address zone verdict →
          verdict.status ≠ .unknown → zone ∉ dead) ∧
      (c.run settings moment durationMs store desk reports).trace.filterMap Effect.outage? =
        if o.summary.issueDetected = true ∧ settings.dryRun = false then
          [(o.summary.brokenFraction, dead)]
        else [] := by
  obtain ⟨hzones, states, store', hfetch⟩ :=
    c.fetched_of_ok settings moment durationMs store desk reports ho
  obtain ⟨-, htrace, hok, -⟩ := c.run_frame hzones hfetch moment durationMs desk reports
  have hsummary : o.summary =
      stock c settings moment durationMs store' desk (c.visits states) := (hok o ho).1
  obtain ⟨effects, heffects, hall⟩ := handledAll_foldl_visit c settings (c.visits states)
    (RunState.start settings store' desk)
  have hmem := mem_brokenZoneNames c settings moment durationMs store' desk (c.visits states)
  have hdetected := issueDetected_stock c settings moment durationMs store' desk (c.visits states)
  refine ⟨states, store', hfetch, ?_⟩
  rw [hsummary]
  refine ⟨pairwise_brokenZoneNames .., hmem, brokenZones_stock .., totalZones_stock .., ?_,
    fun hfew => ?_, fun hnone => ?_, fun v hv zone verdict hfinds hdefinite hdead => ?_, ?_⟩
  · rw [HealthSummary.brokenFraction, brokenZones_stock, totalZones_stock]
    exact hdetected.trans (and_congr_left' (c.askOutside_allUnreachable settings))
  · obtain ⟨zone, hzone⟩ := List.exists_mem_of_ne_nil _ hzones
    have hsome : 0 < settings.probing.zones.dedup.length :=
      List.length_pos_of_mem (List.mem_dedup.2 hzone)
    rw [hdetected, isWidespread_iff (length_brokenZoneNames_le ..) hfew, and_iff_right hsome,
      c.askOutside_allUnreachable]
  · have hdead : (stock c settings moment durationMs store' desk
        (c.visits states)).brokenZoneNames = [] :=
      List.eq_nil_iff_forall_not_mem.2 fun zone hzone =>
        ((hmem zone).1 hzone).2.1 ((c.visits_eq_nil_iff states).2 hnone)
    refine ⟨hdead, Bool.eq_false_iff.2 fun hflag => ?_⟩
    have hhalf := (hdetected.1 hflag).2
    rw [hdead, List.length_nil, isWidespread_zero_left] at hhalf
    exact Bool.false_ne_true hhalf
  · exact hdefinite (((hmem zone).1 hdead).2.2 v hv verdict hfinds)
  · have hstarted : (RunState.start settings store' desk).trace = [] := rfl
    rw [hstarted, List.nil_append] at heffects
    rw [htrace, heffects, List.filterMap_append, hall.no_outage, List.nil_append]
    exact outage?_outageCalls settings _

/-- Two addresses at two zones, one of which answers about the first address and one not at all,
while of the public resolvers one is silent and the other too late. -/
theorem run_outage_half_dead :
    let states : List IpState :=
      [⟨1, ⟨192, 0, 2, 1⟩, 50, none, .empty, none⟩, ⟨2, ⟨192, 0, 2, 2⟩, 50, none, .empty, none⟩]
    let lookup : Lookup := fun name =>
      if name = "1.2.0.192.a.example" then .answer (.noName none) 10
      else if name = "2.2.0.192.a.example" then .death "gone" 10
      else .silence
    let settings : Settings :=
      { Settings.standard with
        probing := { ProbeSettings.standard with
          zones := ["b.example", "a.example", "b.example"], networkCheck := true } }
    let c : Collaborators Unit Unit Nat Unit Unit :=
      ⟨⟨fun store => (.ok states, store), fun _ _ _ store => (.ok true, store)⟩, .silent,
        ⟨fun _ reports => (.ok [], reports)⟩, fun _ _ => lookup, fun _ => .silence,
        fun _ => .answer (.addresses [⟨142, 250, 1, 1⟩]) (settings.probing.timeoutMs + 1)⟩
    let r := c.run settings ⟨0, 0⟩ 0 () 0 ()
    ∃ o, r.outcome = .ok o ∧ o.summary.brokenZoneNames = ["b.example"] ∧
      o.summary.issueDetected = true ∧
      r.trace.filterMap Effect.outage? = [(o.summary.brokenFraction, ["b.example"])] := by
  intro states lookup settings c r
  have hzones : settings.probing.zones ≠ [] := List.cons_ne_nil _ _
  have hfetch : c.store.fetch () = (.ok states, ()) := rfl
  have hrun : r = _ := c.run_eq hzones hfetch ⟨0, 0⟩ 0 0 ()
  obtain ⟨o, ho⟩ : ∃ o, r.outcome = .ok o := by
    rw [hrun]
    exact ⟨_, rfl⟩
  have hnames : r.outcome.toOption.map (·.summary.brokenZoneNames) = some ["b.example"] := by
    rw [hrun]
    decide +kernel
  rw [ho] at hnames
  have hdead : o.summary.brokenZoneNames = ["b.example"] := Option.some.inj hnames
  obtain ⟨fetched, store', -, -, -, -, -, -, hdetected, -, -, hreport⟩ :=
    c.run_outage settings ⟨0, 0⟩ 0 () 0 () ho
  have hlate : ¬ c.google.Delivers settings.probing.timeoutMs := by
    rintro ⟨found, after, hreply, -, hdue⟩
    have hafter : settings.probing.timeoutMs + 1 = after := (Reply.answer.inj hreply).2
    omega
  have hflag : o.summary.issueDetected = true := by
    refine (hdetected (by decide)).2 ⟨⟨rfl, ?_, hlate⟩, ?_⟩
    · rintro ⟨found, after, hreply, -⟩
      exact absurd hreply (by simp)
    · rw [hdead]
      decide
  refine ⟨o, ho, hdead, hflag, ?_⟩
  rw [hdead] at hreport
  exact hreport.trans (if_pos ⟨hflag, rfl⟩)

end Collaborators

end BlocklistWatch
