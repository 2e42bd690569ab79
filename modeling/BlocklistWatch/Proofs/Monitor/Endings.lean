import BlocklistWatch.Proofs.Monitor.Predicted

/-!
# How a run can end

A run that has a zone to ask ends with an error only if its states cannot be fetched or its reports
cannot be handed over. The errors of the tracker and of a check cannot come up: there is a zone to
ask, the tracker holds a record under every configured name just as it is written, and whatever
comes of asking for that name, the finding bears it unchanged.

* `Check.Unrefused` says of a check that nothing about it was refused, nor could be;
  `Check.Sound.unrefused` derives it from the invariant of all checks.
* `RunState.checkAll_start` is a run up to any of its addresses.
* `Collaborators.run_ends` is the whole run.
-/

namespace BlocklistWatch

variable {σ ε τ ρ φ : Type}

/-! ## One check -/

/-- A check of some zones about which nothing was refused. Whatever ended and whatever was taken
bears the name of its zone just as it was given; an open question comes with a reason, a definite
answer without; and the tracker would count any finding under any of the names. -/
structure Check.Unrefused (p : Prober) (ip : Ipv4) (zones : List String) (c : Check) : Prop where
  refusal : c.refusal = none
  ended : ∀ zone left, c.ended? zone = some left →
    zone ∈ zones ∧ left = .ok (p.probe ip zone) ∧
      ∀ f, left = .ok (.finding f) → f.ip = ip ∧ f.zone = zone
  taken : ∀ f ∈ c.taken, f.ip = ip ∧ f.zone ∈ zones ∧ f = p.finding ip f.zone ∧
    (f.verdict.failure.isSome = true ↔ f.verdict.status = .unknown)
  accepts : ∀ t ∈ c.tracker, ∀ f : Finding, f.zone ∈ zones →
    ∃ t', noteIn (some t) f = .ok (some t')

theorem Verdict.isSome_failure_iff (v : Verdict) :
    v.failure.isSome = true ↔ v.status = .unknown := by
  cases v <;> simp [failure, status]

theorem Prober.leaves_of_knows {p : Prober} {tracker : Option HealthTracker} {ip : Ipv4}
    {zone : String} (h : knows tracker zone = true) :
    p.leaves tracker ip zone = .ok (p.probe ip zone) := by
  unfold leaves
  cases hprobe : p.probe ip zone with
  | death reason => rfl
  | finding f => exact if_pos ((ip_and_zone_of_probe hprobe).2.symm ▸ h)

theorem Check.Sound.unrefused {p : Prober} {ip : Ipv4} {zones : List String} {t : HealthTracker}
    {c : Check} (h : c.Sound p ip (some t) (Text.sortNames zones))
    (ht : t.zones = Text.sortNames zones) : c.Unrefused p ip zones := by
  have hknows : ∀ zone ∈ Text.sortNames zones, knows (some t) zone = true := fun zone hzone =>
    List.contains_iff_mem.2 (ht ▸ hzone)
  refine ⟨h.not_refused hknows, fun zone left hleft => ?_, fun f hf => ?_, fun u hu f hzone => ?_⟩
  · obtain ⟨hzone, rfl⟩ := h.ended zone left hleft
    have hleaves : p.leaves (some t) ip zone = .ok (p.probe ip zone) :=
      Prober.leaves_of_knows (hknows zone hzone)
    refine ⟨Text.mem_sortNames.1 hzone, hleaves, fun f hf => ?_⟩
    exact Prober.ip_and_zone_of_probe (Except.ok.inj (hleaves.symm.trans hf))
  · obtain ⟨done, hzones, htaken, -⟩ := h.taken
    obtain ⟨zone, hzone, rfl⟩ := List.mem_map.1 (htaken ▸ List.mem_reverse.2 hf)
    have hmem : zone ∈ Text.sortNames zones := hzones ▸ List.mem_append_left _ hzone
    rw [Prober.zone_finding]
    exact ⟨p.ip_finding ip zone, Text.mem_sortNames.1 hmem, rfl, Verdict.isSome_failure_iff _⟩
  · rw [h.tracker] at hu
    obtain rfl := Option.some.inj hu
    -- What was counted so far leaves the names in the tracker as they are.
    have hsame : (t.notedAt c.counted (p.verdict ip)).zones = Text.sortNames zones :=
      HealthTracker.zones_notedAt.trans ht
    have hnoted := HealthTracker.noteVerdict_of_mem (hsame ▸ Text.nodup_sortNames zones)
      (hsame ▸ Text.mem_sortNames.2 hzone) f.verdict
    exact ⟨_, congrArg (Except.map some) hnoted⟩

/-! ## One address after another -/

namespace RunState

variable {c : Collaborators σ ε τ ρ φ} {settings : Settings} {s : RunState σ τ}

theorem tracks_foldl_visit (h : Tracks settings s) (vs : List Visit) :
    Tracks settings (vs.foldl (visit c settings) s) := by
  induction vs generalizing s with
  | nil => exact h
  | cons v vs ih => exact ih (tracks_visit h v)

/-- The check of an address in the middle of a run, in whatever order its tasks go on: nothing is
refused, and what it comes to is what the run goes on with. -/
theorem unrefused_of_tracks (h : Tracks settings s) (hzones : settings.probing.zones ≠ [])
    {p : Prober} {ip : Ipv4} {limit n : Nat} {u : Tasks}
    (hrun : Tasks.Run p ip limit
      (Tasks.start (some s.tracker.start) (Text.sortNames settings.probing.zones)) n u) :
    u.check.Unrefused p ip settings.probing.zones ∧
      (u.check.awaited = [] →
        let r := checkAddress p (some s.tracker.start) ip settings.probing.zones limit
        r.findings = .ok u.check.taken.reverse ∧ r.tracker = u.check.tracker) := by
  have hsound := (hrun.sound (Tasks.sound_start p ip _ _) h.nodup_start (Text.nodup_sortNames _)).check
  refine ⟨hsound.unrefused h, fun hdone => ?_⟩
  obtain ⟨hfindings, htracker⟩ :=
    checkAddress_of_knows p ip limit hzones h.nodup_start h.knows_start
  obtain ⟨-, htaken, hafter⟩ := hsound.complete hdone
  rw [htaken, hafter]
  exact ⟨hfindings, htracker⟩

/-- A run up to one of its addresses, and the check of that address. -/
theorem checkAll_start (c : Collaborators σ ε τ ρ φ) (hzones : settings.probing.zones ≠ [])
    (store : σ) (desk : τ) (before : List Visit) (v : Visit) :
    ∃ s, checkAll c settings before (start settings store desk) = (.ok (), s) ∧
      Tracks settings s ∧ (checkOne c settings v s).1 = .ok () := by
  have htracks := tracks_start settings store desk
  have htracks' := tracks_foldl_visit (c := c) htracks before
  refine ⟨_, checkAll_eq c hzones htracks before, htracks', ?_⟩
  rw [checkOne_eq c v hzones htracks']

end RunState

/-! ## Whole runs -/

namespace Collaborators

open RunState

/-- A run that has a zone to ask ends with an error of the store if its states cannot be fetched, and
otherwise as its reports are answered; there is no other error. Whatever addresses were dealt with
before and whatever the look-ups replied, at the next one nothing is refused, in whatever order its
tasks go on. -/
theorem run_ends (c : Collaborators σ ε τ ρ φ) (settings : Settings)
    (hzones : settings.probing.zones ≠ []) (moment : Moment) (durationMs : Nat) (store : σ)
    (desk : τ) (reports : ρ) :
    let r := c.run settings moment durationMs store desk reports
    let zones := settings.probing.zones
    let limit := settings.probing.concurrency
    (∀ failure store', c.store.fetch store = (.error failure, store') →
      r.outcome = .error (.store failure)) ∧
    (∀ states store', c.store.fetch store = (.ok states, store') →
      ∃ stats summary,
        r.outcome = RunOutcome.ofAnswer stats summary (c.reports.publish summary reports).1) ∧
    (∀ e, r.outcome = .error e →
      (∃ failure store', c.store.fetch store = (.error failure, store') ∧ e = .store failure) ∨
      ∃ failure summary reports',
        c.reports.publish summary reports = (.error failure, reports') ∧ e = .report failure) ∧
    ∀ before v store',
      ∃ s, checkAll c settings before (RunState.start settings store' desk) = (.ok (), s) ∧
        (checkOne c settings v s).1 = .ok () ∧
        let p := prober settings v.lookup
        let ip := v.state.address
        ∀ n u, Tasks.Run p ip limit
            (Tasks.start (some s.tracker.start) (Text.sortNames zones)) n u →
          u.check.Unrefused p ip zones ∧
          (u.check.awaited = [] →
            let done := checkAddress p (some s.tracker.start) ip zones limit
            done.findings = .ok u.check.taken.reverse ∧ done.tracker = u.check.tracker) := by
  intro r zones limit
  have hunfetched : ∀ failure store', c.store.fetch store = (.error failure, store') →
      r.outcome = .error (.store failure) := by
    intro failure store' hfetch
    simp only [r, run, hfetch]
  have hfetched : ∀ states store', c.store.fetch store = (.ok states, store') →
      ∃ stats summary,
        r.outcome = RunOutcome.ofAnswer stats summary (c.reports.publish summary reports).1 := by
    intro states store' hfetch
    obtain ⟨-, stats, -, -, houtcome⟩ :=
      c.run_settled settings hzones hfetch moment durationMs desk reports
    exact ⟨stats, _, houtcome⟩
  refine ⟨hunfetched, hfetched, fun e he => ?_, fun before v store' => ?_⟩
  · rcases hfetch : c.store.fetch store with ⟨failure | states, store'⟩
    · exact .inl ⟨failure, store', rfl, Except.error.inj (he.symm.trans (hunfetched _ _ hfetch))⟩
    · obtain ⟨stats, summary, houtcome⟩ := hfetched states store' hfetch
      obtain ⟨failure, hfailure, hreport⟩ :=
        RunOutcome.ofAnswer_eq_error_iff.1 (houtcome.symm.trans he)
      exact .inr ⟨failure, summary, _, Prod.ext hfailure rfl, hreport⟩
  · obtain ⟨s, hchecked, htracks, hone⟩ := checkAll_start c hzones store' desk before v
    exact ⟨s, hchecked, hone, fun n u hrun => unrefused_of_tracks htracks hzones hrun⟩

/-- Names that cannot be asked for, a name with blanks around it and the same name without, twice; the
look-up dies about the second address and is silent about the first, and the reports cannot be
written. -/
theorem run_ends_unreported :
    let first : IpState := ⟨1, ⟨192, 0, 2, 1⟩, 50, none, .empty, none⟩
    let second : IpState := ⟨2, ⟨192, 0, 2, 2⟩, 50, none, .empty, none⟩
    let lookup : Lookup := fun name =>
      if name = "2.2.0.192.a.example" then .death "gone" 10 else .silence
    let zones := ["", " a.example ", "b..example", "a.example", "a.example"]
    let settings : Settings :=
      { Settings.standard with
        probing := { ProbeSettings.standard with zones := zones, concurrency := 2 } }
    let c : Collaborators Unit Unit Nat Unit String :=
      ⟨⟨fun store => (.ok [first, second], store), fun _ _ _ store => (.error (), store)⟩, .silent,
        ⟨fun _ reports => (.error "disk full", reports)⟩, fun _ _ => lookup, fun _ => .silence,
        fun _ => .silence⟩
    (c.run settings ⟨0, 0⟩ 0 () 0 ()).outcome = .error (.report "disk full") ∧
      ∃ s, checkAll c settings [⟨first, fun _ => lookup⟩] (RunState.start settings () 0) =
          (.ok (), s) ∧
        ∀ n u, Tasks.Run (prober settings fun _ => lookup) second.address 2
            (Tasks.start (some s.tracker.start) (Text.sortNames zones)) n u →
          u.check.Unrefused (prober settings fun _ => lookup) second.address zones := by
  intro first second lookup zones settings c
  obtain ⟨-, hfetched, -, hchecks⟩ :=
    c.run_ends settings (List.cons_ne_nil _ _) ⟨0, 0⟩ 0 () 0 ()
  obtain ⟨stats, summary, houtcome⟩ := hfetched [first, second] () rfl
  obtain ⟨s, hchecked, -, hsecond⟩ :=
    hchecks [⟨first, fun _ => lookup⟩] ⟨second, fun _ => lookup⟩ ()
  exact ⟨houtcome, s, hchecked, fun n u hrun => (hsecond n u hrun).1⟩

end Collaborators

end BlocklistWatch
