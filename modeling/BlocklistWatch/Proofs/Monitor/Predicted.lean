import BlocklistWatch.Proofs.Monitor.Visit

/-!
# What the lists alone settle

Nothing that the store or the ticket system answers has a part in a decision. So what a run counts
about decisions and what it learns about the zones can be said beforehand, from the settings, the
look-ups and the fetched states.

* `RunStats.decided` keeps of the counters those of decisions, `RunStats.afterAddress` counts one.
* `RunOutcome.ofAnswer` is how a run comes out by the answer of the reports.
* `countsFor` and `trackerFor` are the counters and the tracker after some visits.
* `RunState.decided_visit` and `RunState.tracker_visit` say it of one address,
  `RunState.decided_foldl_visit` and `RunState.tracker_foldl_visit` of all.
* `Collaborators.run_settled` is the whole run.
-/

namespace BlocklistWatch

variable {σ ε τ ρ φ : Type}

/-! ## Counters -/

namespace RunStats

/-- The counters of decisions, those of the ticket system and of the store at zero. -/
def decided (s : RunStats) : RunStats :=
  ⟨s.total, s.listed, s.cleaned, s.unchanged, 0, 0, 0, 0⟩

/-- The counters after one more address, by the kind of the transition that was decided. -/
def afterAddress (s : RunStats) : Option TransitionKind → RunStats
  | none => { s with total := s.total + 1, unchanged := s.unchanged + 1 }
  | some kind => { s with total := s.total + 1 }.countKind kind

theorem decided_afterAddress (s : RunStats) (kind : Option TransitionKind) :
    (s.afterAddress kind).decided = s.decided.afterAddress kind := by
  cases kind with
  | none => rfl
  | some kind => cases kind <;> rfl

end RunStats

@[simp] theorem TicketAction.decided_count (a : TicketAction) (s : RunStats) :
    (a.count s).decided = s.decided := by
  cases a <;> rfl

/-! ## Outcomes -/

namespace RunOutcome

variable {stats : RunStats} {summary : HealthSummary} {published : Except φ (List String)}

/-- How a run comes out whose reports were answered like this. -/
def ofAnswer (stats : RunStats) (summary : HealthSummary) (published : Except φ (List String)) :
    Except (RunError ε φ) RunOutcome :=
  match published with
  | .ok files => .ok ⟨stats, summary, files⟩
  | .error e => .error (.report e)

theorem of_ofAnswer_ok {o : RunOutcome}
    (h : (ofAnswer stats summary published : Except (RunError ε φ) RunOutcome) = .ok o) :
    o.stats = stats ∧ o.summary = summary := by
  cases published with
  | error e => exact absurd h (by simp [ofAnswer])
  | ok files =>
    rw [← Except.ok.inj h]
    exact ⟨rfl, rfl⟩

theorem ofAnswer_eq_error_iff {e : RunError ε φ} :
    ofAnswer stats summary published = .error e ↔
      ∃ failure, published = .error failure ∧ e = .report failure := by
  cases published with
  | error failure => simp [ofAnswer, eq_comm]
  | ok files => simp [ofAnswer]

theorem of_ofAnswer_error {e : RunError ε φ} (h : ofAnswer stats summary published = .error e) :
    ∃ failure, e = .report failure :=
  (ofAnswer_eq_error_iff.1 h).imp fun _ h => h.2

theorem ofAnswer_decided (stats : RunStats) (summary : HealthSummary)
    (published : Except φ (List String)) :
    (ofAnswer stats.decided summary published : Except (RunError ε φ) RunOutcome) =
      (ofAnswer stats summary published).map fun o => { o with stats := o.stats.decided } := by
  cases published <;> rfl

end RunOutcome

/-! ## Beforehand -/

def countsFor (settings : Settings) (vs : List Visit) : RunStats :=
  vs.foldl (fun stats v => stats.afterAddress ((decision settings v).map (·.kind))) .zero

/-- The tracker after an address was checked at all zones. -/
def trackerAfter (settings : Settings) (t : HealthTracker) (v : Visit) : HealthTracker :=
  t.start.notedAt (fun zone => (Text.sortNames settings.probing.zones).contains zone)
    ((RunState.prober settings v.lookup).verdict v.state.address)

def trackerFor (settings : Settings) (vs : List Visit) : HealthTracker :=
  vs.foldl (trackerAfter settings)
    ⟨(Text.sortNames settings.probing.zones).map ZoneRecord.fresh, 0⟩

namespace RunState

variable {c : Collaborators σ ε τ ρ φ} {settings : Settings}

/-! ## One address -/

theorem tracker_visit (s : RunState σ τ) (v : Visit) :
    (visit c settings s v).tracker = trackerAfter settings s.tracker v :=
  (visited c settings s v).2

theorem decided_visit (s : RunState σ τ) (v : Visit) :
    (visit c settings s v).stats.decided =
      s.stats.decided.afterAddress ((decision settings v).map (·.kind)) := by
  rw [← RunStats.decided_afterAddress]
  cases (visited c settings s v).1 with
  | unchanged hnone _ _ _ _ hstats _ =>
    rw [hstats, hnone]
    rfl
  | logged _ hsome _ _ _ _ hstats _ =>
    rw [hstats, hsome]
    rfl
  | refused _ hsome _ _ _ _ hcounted hstats _ =>
    rw [hstats, hcounted, hsome]
    rfl
  | accepted _ hsome _ _ _ _ hstats _ =>
    rw [hstats, hsome, TicketAction.decided_count]
    rfl

/-- A dry run only counts. -/
theorem visit_of_dryRun (hdry : settings.dryRun = true) (s : RunState σ τ) (v : Visit) :
    (visit c settings s v).store = s.store ∧ (visit c settings s v).desk = s.desk ∧
      (visit c settings s v).stats =
        s.stats.afterAddress ((decision settings v).map (·.kind)) := by
  cases (visited c settings s v).1 with
  | unchanged hnone _ _ hstore hdesk hstats _ =>
    rw [hnone]
    exact ⟨hstore, hdesk, hstats⟩
  | logged _ hsome _ _ hstore hdesk hstats _ =>
    rw [hsome]
    exact ⟨hstore, hdesk, hstats⟩
  | refused hwet => exact absurd (hdry.symm.trans hwet) (by simp)
  | accepted hwet => exact absurd (hdry.symm.trans hwet) (by simp)

/-! ## All addresses -/

theorem tracker_foldl_visit (vs : List Visit) (s : RunState σ τ) :
    (vs.foldl (visit c settings) s).tracker =
      vs.foldl (trackerAfter settings) s.tracker := by
  induction vs generalizing s with
  | nil => rfl
  | cons v vs ih => rw [List.foldl_cons, ih, tracker_visit, List.foldl_cons]

theorem decided_foldl_visit (vs : List Visit) (s : RunState σ τ) :
    (vs.foldl (visit c settings) s).stats.decided =
      vs.foldl (fun stats v =>
        stats.afterAddress ((decision settings v).map (·.kind))) s.stats.decided := by
  induction vs generalizing s with
  | nil => rfl
  | cons v vs ih => rw [List.foldl_cons, ih, decided_visit, List.foldl_cons]

theorem foldl_visit_of_dryRun (hdry : settings.dryRun = true) (vs : List Visit)
    (s : RunState σ τ) :
    (vs.foldl (visit c settings) s).store = s.store ∧
      (vs.foldl (visit c settings) s).desk = s.desk ∧
      (vs.foldl (visit c settings) s).stats =
        vs.foldl (fun stats v =>
          stats.afterAddress ((decision settings v).map (·.kind))) s.stats := by
  induction vs generalizing s with
  | nil => exact ⟨rfl, rfl, rfl⟩
  | cons v vs ih =>
    obtain ⟨hstore, hdesk, hstats⟩ := visit_of_dryRun (c := c) hdry s v
    obtain ⟨hstore', hdesk', hstats'⟩ := ih (visit c settings s v)
    refine ⟨hstore'.trans hstore, hdesk'.trans hdesk, ?_⟩
    rw [List.foldl_cons, hstats', hstats, List.foldl_cons]

/-! ## The end -/

/-- The state at the very end of a run, when an outage has been reported. -/
def ended (c : Collaborators σ ε τ ρ φ) (settings : Settings) (summary : HealthSummary)
    (s : RunState σ τ) : RunState σ τ :=
  let s := { s with elapsed := s.elapsed + (c.askOutside settings).2 }
  if summary.issueDetected then reportOutage c.tickets settings summary s else s

theorem decided_ended (c : Collaborators σ ε τ ρ φ) (settings : Settings)
    (summary : HealthSummary) (s : RunState σ τ) :
    (ended c settings summary s).stats.decided = s.stats.decided := by
  obtain ⟨action, desk, hstate⟩ := reportOutage_frame c.tickets settings summary
    { s with elapsed := s.elapsed + (c.askOutside settings).2 }
  rw [ended, hstate]
  exact TicketAction.decided_count action s.stats

/-- A dry run reports no outage. -/
theorem ended_of_dryRun (c : Collaborators σ ε τ ρ φ) (hdry : settings.dryRun = true)
    (summary : HealthSummary) (s : RunState σ τ) :
    ended c settings summary s =
      { s with elapsed := s.elapsed + (c.askOutside settings).2 } := by
  rw [ended, reportOutage, if_pos hdry, ite_self]

end RunState

namespace Collaborators

open RunState

theorem finish_eq (c : Collaborators σ ε τ ρ φ) (settings : Settings) (moment : Moment)
    (durationMs : Nat) (s : RunState σ τ) (reports : ρ) :
    let summary := s.tracker.summarize (some (c.askOutside settings).1) moment durationMs
    let published := c.reports.publish summary reports
    let last := ended c settings summary s
    c.finish settings moment durationMs s reports =
      ⟨RunOutcome.ofAnswer last.stats summary published.1, last.store, last.desk, published.2, last.trace,
        last.elapsed⟩ := by
  intro summary published last
  have hpublished : c.reports.publish summary reports = published := rfl
  obtain ⟨answer, reports'⟩ := published
  unfold finish
  simp only [summary] at hpublished
  simp only [hpublished]
  cases answer <;> rfl

theorem run_eq_of_no_zones (c : Collaborators σ ε τ ρ φ) (settings : Settings)
    (hzones : settings.probing.zones = []) {store store' : σ} {states : List IpState}
    (hfetch : c.store.fetch store = (.ok states, store')) (moment : Moment) (durationMs : Nat)
    (desk : τ) (reports : ρ) :
    c.run settings moment durationMs store desk reports =
      ⟨.error (.tracker .noZones), store', desk, reports, [], 0⟩ := by
  have hnone : HealthTracker.ofZones settings.probing.zones = .error .noZones := by
    rw [hzones]
    rfl
  simp only [run, hfetch, hnone]

/-- What a run counts about decisions, what it takes stock of and what it hands to the reports; a dry
run counts nothing else and leaves the ticket system alone. -/
theorem run_settled (c : Collaborators σ ε τ ρ φ) (settings : Settings)
    (hzones : settings.probing.zones ≠ []) {store store' : σ} {states : List IpState}
    (hfetch : c.store.fetch store = (.ok states, store')) (moment : Moment) (durationMs : Nat)
    (desk : τ) (reports : ρ) :
    let r := c.run settings moment durationMs store desk reports
    let summary := (trackerFor settings (c.visits states)).summarize
      (some (c.askOutside settings).1) moment durationMs
    let published := c.reports.publish summary reports
    r.reports = published.2 ∧
      ∃ stats, stats.decided = countsFor settings (c.visits states) ∧
        (settings.dryRun = true → stats = stats.decided ∧ r.desk = desk ∧ r.store = store') ∧
        r.outcome = RunOutcome.ofAnswer stats summary published.1 := by
  intro r summary published
  let s := (c.visits states).foldl (visit c settings) (RunState.start settings store' desk)
  have htracker : s.tracker = trackerFor settings (c.visits states) := tracker_foldl_visit _ _
  have hdecided : s.stats.decided = countsFor settings (c.visits states) :=
    decided_foldl_visit _ _
  have hr : r = c.finish settings moment durationMs s reports :=
    c.run_eq hzones hfetch moment durationMs desk reports
  rw [c.finish_eq, htracker] at hr
  have hlast : (ended c settings summary s).stats.decided = countsFor settings (c.visits states) :=
    (decided_ended c settings summary s).trans hdecided
  refine ⟨hr ▸ rfl, (ended c settings summary s).stats, hlast, fun hdry => ?_, hr ▸ rfl⟩
  obtain ⟨hstore, hdesk, hcounted⟩ :=
    foldl_visit_of_dryRun (c := c) hdry (c.visits states) (RunState.start settings store' desk)
  have hsame := ended_of_dryRun c hdry summary s
  refine ⟨?_, ?_, ?_⟩
  · rw [hlast, hsame]
    exact hcounted
  · rw [hr]
    exact (congrArg RunState.desk hsame).trans hdesk
  · rw [hr]
    exact (congrArg RunState.store hsame).trans hstore

end Collaborators

end BlocklistWatch
