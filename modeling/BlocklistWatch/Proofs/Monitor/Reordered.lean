import BlocklistWatch.Proofs.Monitor.Convergence
import BlocklistWatch.Proofs.Monitor.Predicted
import BlocklistWatch.Proofs.Store.Reordered

/-!
# What a run does not depend on

The zones of the settings are sorted before anything is done with them, and how many probes run at
once matters for the time only. A run on settings with the same zones in another order, more or less
often, and another number of probes does the same, also on a store that its answers do not tell apart.

* `Settings.reprobed` are such settings.
* `StoreDesk.Keeps` says that a relation between states of a store stands whatever is changed, and
  that it answers the same in both.
* `RunState.Alike` relates two states that a run came to; every step of a run keeps it, as
  `RunState.Alike.visit` and `RunState.Alike.ended` say.
* `Collaborators.run_alike` compares whole runs, `Collaborators.run_reordered` those over files with
  the same rows in different orders.
-/

namespace BlocklistWatch

variable {σ ε τ ρ φ : Type}

/-- The settings with other zones and another number of probes at once. -/
def Settings.reprobed (s : Settings) (zones : List String) (concurrency : Nat) : Settings :=
  { s with probing := { s.probing with zones := zones, concurrency := concurrency } }

/-- A change to two related states is answered alike and leaves them related. -/
def StoreDesk.Keeps (desk : StoreDesk σ ε) (R : σ → σ → Prop) : Prop :=
  ∀ state t policy s s', R s s' →
    (desk.apply state t policy s').1 = (desk.apply state t policy s).1 ∧
      R (desk.apply state t policy s).2 (desk.apply state t policy s').2

namespace RunState

/-- Two states of a run are the same but for the store, where they are related, and the time. -/
structure Alike (R : σ → σ → Prop) (s s' : RunState σ τ) : Prop where
  store : R s.store s'.store
  desk : s'.desk = s.desk
  tracker : s'.tracker = s.tracker
  stats : s'.stats = s.stats
  effects : s'.effects = s.effects

namespace Alike

variable {R : σ → σ → Prop} {s s' : RunState σ τ}

theorem did (h : Alike R s s') (e : Effect) : Alike R (s.did e) (s'.did e) :=
  ⟨h.store, h.desk, h.tracker, h.stats, congrArg (e :: ·) h.effects⟩

theorem withStats (h : Alike R s s') (f : RunStats → RunStats) :
    Alike R { s with stats := f s.stats } { s' with stats := f s'.stats } :=
  ⟨h.store, h.desk, h.tracker, congrArg f h.stats, h.effects⟩

theorem withDesk (h : Alike R s s') (desk : τ) :
    Alike R { s with desk := desk } { s' with desk := desk } :=
  ⟨h.store, rfl, h.tracker, h.stats, h.effects⟩

theorem withStore (h : Alike R s s') {store store' : σ} (hstore : R store store') :
    Alike R { s with store := store } { s' with store := store' } :=
  ⟨hstore, h.desk, h.tracker, h.stats, h.effects⟩

/-! ## Tickets -/

section Tickets

variable (tickets : TicketDesk τ)

theorem openIssue (h : Alike R s s') (t : Transition) :
    (RunState.openIssue tickets t s').1 = (RunState.openIssue tickets t s).1 ∧
      Alike R (RunState.openIssue tickets t s).2 (RunState.openIssue tickets t s').2 := by
  unfold RunState.openIssue
  rw [h.desk]
  rcases hcreate : tickets.create t.ip t.listedZones (listingDescription t) s.desk with
    ⟨e | key, desk⟩
  all_goals
    simp only [hcreate]
    exact ⟨trivial, (h.withDesk desk).did _⟩

theorem commentOn (h : Alike R s s') (key body : String) :
    (RunState.commentOn tickets key body s').1 = (RunState.commentOn tickets key body s).1 ∧
      Alike R (RunState.commentOn tickets key body s).2
        (RunState.commentOn tickets key body s').2 := by
  unfold RunState.commentOn
  rw [h.desk]
  rcases tickets.comment key body s.desk with ⟨e | _, desk⟩
  all_goals exact ⟨rfl, (h.withDesk desk).did _⟩

theorem tell (h : Alike R s s') (t : Transition) :
    (RunState.tell tickets t s').1 = (RunState.tell tickets t s).1 ∧
      Alike R (RunState.tell tickets t s).2 (RunState.tell tickets t s').2 := by
  unfold RunState.tell findIssue
  rw [h.desk]
  rcases tickets.find t.ip s.desk with ⟨e | found, desk⟩
  · exact ⟨rfl, (h.withDesk desk).did _⟩
  · have hasked := (h.withDesk desk).did (.ticket (.find t.ip))
    cases t.kind <;> cases found
    · exact hasked.openIssue tickets t
    · exact ⟨rfl, hasked⟩
    · exact ⟨rfl, hasked⟩
    · exact hasked.commentOn tickets _ _
    · exact ⟨rfl, hasked⟩
    · exact hasked.commentOn tickets _ _

theorem tellAndCount (h : Alike R s s') (t : Transition) :
    (RunState.tellAndCount tickets t s').1 = (RunState.tellAndCount tickets t s).1 ∧
      Alike R (RunState.tellAndCount tickets t s).2 (RunState.tellAndCount tickets t s').2 := by
  obtain ⟨haction, hstates⟩ := h.tell tickets t
  unfold RunState.tellAndCount
  refine ⟨haction, ?_⟩
  simp only [haction]
  exact hstates.withStats _

end Tickets

/-! ## One address -/

variable {c : Collaborators σ ε τ ρ φ} {settings : Settings} {zones : List String}

theorem carryOut (h : Alike R s s') (hkeeps : c.store.Keeps R) (settings : Settings)
    (state : IpState) (t : Transition) :
    let r := RunState.carryOut c.store c.tickets settings state t s
    let r' := RunState.carryOut c.store c.tickets settings state t s'
    r'.1 = r.1 ∧ r'.2.1 = r.2.1 ∧ Alike R r.2.2 r'.2.2 := by
  unfold RunState.carryOut
  cases settings.dryRun with
  | true => exact ⟨rfl, rfl, h⟩
  | false =>
    have hanswer := hkeeps state t settings.priority s.store s'.store h.store
    rcases happly : c.store.apply state t settings.priority s.store with ⟨answer, stored⟩
    rcases happly' : c.store.apply state t settings.priority s'.store with ⟨answer', stored'⟩
    rw [happly, happly'] at hanswer
    obtain ⟨rfl, hstored⟩ := hanswer
    cases answer' with
    | error e =>
      exact ⟨rfl, rfl, ((h.withStore hstored).withStats fun stats =>
        { stats with storeFailures := stats.storeFailures + 1 }).did _⟩
    | ok written =>
      obtain ⟨haction, hstates⟩ :=
        ((h.withStore hstored).did (.apply state t true)).tellAndCount c.tickets t
      exact ⟨rfl, haction, hstates⟩

theorem decideOn (h : Alike R s s') (hkeeps : c.store.Keeps R) (settings : Settings)
    (state : IpState) (findings : List Finding) :
    Alike R (RunState.decideOn c.store c.tickets settings state findings s)
      (RunState.decideOn c.store c.tickets settings state findings s') := by
  unfold RunState.decideOn
  cases state.decide (findings.map (·.observation)) with
  | none =>
    exact (h.withStats fun stats => { stats with unchanged := stats.unchanged + 1 }).did _
  | some t =>
    obtain ⟨hwritten, haction, hstates⟩ :=
      (h.withStats (·.countKind t.kind)).carryOut hkeeps settings state t
    simp only [hwritten, haction]
    exact hstates.did _

/-- The zones are sorted before they are asked, and the number of probes at once shows in the time
only. -/
theorem visit (h : Alike R s s') (hkeeps : c.store.Keeps R)
    (hzones : ∀ zone, zone ∈ zones ↔ zone ∈ settings.probing.zones) (concurrency : Nat)
    (v : Visit) :
    Alike R (RunState.visit c settings s v)
      (RunState.visit c (settings.reprobed zones concurrency) s' v) := by
  have hsorted := Text.sortNames_eq_of_mem_iff hzones
  have hprobed : Alike R (s.probed settings v)
      (s'.probed (settings.reprobed zones concurrency) v) := by
    refine ⟨h.store, h.desk, ?_, ?_, h.effects⟩
    · simp only [probed, Settings.reprobed, hsorted, h.tracker]
      rfl
    · simp only [probed, h.stats]
  unfold RunState.visit
  simp only [Settings.reprobed, hsorted]
  exact hprobed.decideOn hkeeps settings v.state _

theorem foldl_visit (hkeeps : c.store.Keeps R)
    (hzones : ∀ zone, zone ∈ zones ↔ zone ∈ settings.probing.zones) (concurrency : Nat)
    (vs : List Visit) (h : Alike R s s') :
    Alike R (vs.foldl (RunState.visit c settings) s)
      (vs.foldl (RunState.visit c (settings.reprobed zones concurrency)) s') := by
  induction vs generalizing s s' with
  | nil => exact h
  | cons v vs ih => exact ih (h.visit hkeeps hzones concurrency v)

theorem start (hzones : ∀ zone, zone ∈ zones ↔ zone ∈ settings.probing.zones) (concurrency : Nat)
    {store store' : σ} (hstores : R store store') (desk : τ) :
    Alike R (RunState.start settings store desk)
      (RunState.start (settings.reprobed zones concurrency) store' desk) := by
  refine ⟨hstores, rfl, ?_, rfl, rfl⟩
  simp only [RunState.start, Settings.reprobed, Text.sortNames_eq_of_mem_iff hzones]

/-! ## The end -/

/-- What is said of an outage does not depend on when stock was taken. -/
theorem reportOutage (h : Alike R s s') (zones : List String) (concurrency : Nat)
    (summary : HealthSummary) (moment : Moment) (durationMs : Nat) :
    Alike R (RunState.reportOutage c.tickets settings summary s)
      (RunState.reportOutage c.tickets (settings.reprobed zones concurrency)
        { summary with moment := moment, durationMs := durationMs } s') := by
  have hsame : RunState.reportOutage c.tickets (settings.reprobed zones concurrency)
      { summary with moment := moment, durationMs := durationMs } s' =
        RunState.reportOutage c.tickets settings summary s' := rfl
  rw [hsame]
  unfold RunState.reportOutage
  cases settings.dryRun with
  | true => exact h
  | false =>
    rw [h.desk]
    rcases houtage : c.tickets.outage summary.brokenFraction summary.brokenZoneNames s.desk with
      ⟨answer, desk⟩
    simp only [houtage, Bool.false_eq_true, if_false]
    exact ((h.withDesk desk).did
      (.ticket (.outage summary.brokenFraction summary.brokenZoneNames))).withStats _

theorem ended (h : Alike R s s') (c : Collaborators σ ε τ ρ φ) (settings : Settings)
    (zones : List String) (concurrency : Nat) (summary : HealthSummary) (moment : Moment)
    (durationMs : Nat) :
    Alike R (RunState.ended c settings summary s)
      (RunState.ended c (settings.reprobed zones concurrency)
        { summary with moment := moment, durationMs := durationMs } s') := by
  have hlater : Alike R { s with elapsed := s.elapsed + (c.askOutside settings).2 }
      { s' with elapsed := s'.elapsed + (c.askOutside settings).2 } :=
    ⟨h.store, h.desk, h.tracker, h.stats, h.effects⟩
  unfold RunState.ended
  cases hissue : summary.issueDetected with
  | true => exact hlater.reportOutage zones concurrency summary moment durationMs
  | false => exact hlater

end Alike

end RunState

/-! ## Whole runs -/

namespace Collaborators

open RunState

variable (c : Collaborators σ ε τ ρ φ) {R : σ → σ → Prop} (hkeeps : c.store.Keeps R)
  (settings : Settings) {zones : List String}
  (hzones : ∀ zone, zone ∈ zones ↔ zone ∈ settings.probing.zones) (concurrency : Nat)

include hkeeps hzones

/-- Two runs whose stores give the same states and are related after that, over settings with the same
zones. Both do the same, count the same and take the same stock, and their stores are related again. -/
theorem run_alike {store store' fetched fetched' : σ} {states : List IpState}
    (hfetch : c.store.fetch store = (.ok states, fetched))
    (hfetch' : c.store.fetch store' = (.ok states, fetched')) (hstores : R fetched fetched')
    (moment moment' : Moment) (durationMs durationMs' : Nat) (desk : τ) (reports : ρ) :
    let r := c.run settings moment durationMs store desk reports
    let r' := c.run (settings.reprobed zones concurrency) moment' durationMs' store' desk reports
    R r.store r'.store ∧ r'.desk = r.desk ∧ r'.trace = r.trace ∧
      (∀ o o', r.outcome = .ok o → r'.outcome = .ok o' →
        o'.stats = o.stats ∧
          o'.summary = { o.summary with moment := moment', durationMs := durationMs' }) ∧
      (moment' = moment → durationMs' = durationMs →
        r'.outcome = r.outcome ∧ r'.reports = r.reports) ∧
      ∀ e, r.outcome = .error e ∨ r'.outcome = .error e →
        settings.probing.zones = [] ∧ e = .tracker .noZones ∨ ∃ failure, e = .report failure := by
  intro r r'
  by_cases hnone : settings.probing.zones = []
  · have hnone' : zones = [] := List.eq_nil_iff_forall_not_mem.2 fun zone hzone => by
      have hmem := (hzones zone).1 hzone
      rw [hnone] at hmem
      exact List.not_mem_nil hmem
    have hr : r = ⟨.error (.tracker .noZones), fetched, desk, reports, [], 0⟩ :=
      c.run_eq_of_no_zones settings hnone hfetch moment durationMs desk reports
    have hr' : r' = ⟨.error (.tracker .noZones), fetched', desk, reports, [], 0⟩ :=
      c.run_eq_of_no_zones (settings.reprobed zones concurrency) hnone' hfetch' moment' durationMs'
        desk reports
    rw [hr, hr']
    refine ⟨hstores, rfl, rfl, fun o o' ho => absurd ho (by simp), fun _ _ => ⟨rfl, rfl⟩,
      fun e he => .inl ⟨hnone, ?_⟩⟩
    rcases he with he | he
    all_goals exact (Except.error.inj he).symm
  · have hnone' : zones ≠ [] := by
      obtain ⟨zone, hzone⟩ := List.exists_mem_of_ne_nil _ hnone
      exact List.ne_nil_of_mem ((hzones zone).2 hzone)
    let s := (c.visits states).foldl (visit c settings) (RunState.start settings fetched desk)
    let s' := (c.visits states).foldl (visit c (settings.reprobed zones concurrency))
      (RunState.start (settings.reprobed zones concurrency) fetched' desk)
    have hstates : Alike R s s' :=
      (Alike.start hzones concurrency hstores desk).foldl_visit hkeeps hzones concurrency
        (c.visits states)
    have hr : r = c.finish settings moment durationMs s reports :=
      c.run_eq hnone hfetch moment durationMs desk reports
    have hr' : r' = c.finish (settings.reprobed zones concurrency) moment' durationMs' s' reports :=
      c.run_eq hnone' hfetch' moment' durationMs' desk reports
    let summary := s.tracker.summarize (some (c.askOutside settings).1) moment durationMs
    have hsummary : s'.tracker.summarize
        (some (c.askOutside (settings.reprobed zones concurrency)).1) moment' durationMs' =
          { summary with moment := moment', durationMs := durationMs' } := by
      rw [hstates.tracker]
      rfl
    have hlast := hstates.ended c settings zones concurrency summary moment' durationMs'
    rw [c.finish_eq] at hr hr'
    rw [hsummary] at hr'
    have houtcome : r.outcome = _ := congrArg RunResult.outcome hr
    have houtcome' : r'.outcome = _ := congrArg RunResult.outcome hr'
    refine ⟨?_, ?_, ?_, fun o o' ho ho' => ?_, fun hmoment hduration => ?_, fun e he => .inr ?_⟩
    · rw [hr, hr']
      exact hlast.store
    · rw [hr, hr']
      exact hlast.desk
    · rw [hr, hr']
      exact congrArg List.reverse hlast.effects
    · obtain ⟨hstats, hstock⟩ := RunOutcome.of_ofAnswer_ok (houtcome.symm.trans ho)
      obtain ⟨hstats', hstock'⟩ := RunOutcome.of_ofAnswer_ok (houtcome'.symm.trans ho')
      rw [hstats, hstats', hstock, hstock']
      exact ⟨hlast.stats, rfl⟩
    · subst hmoment hduration
      rw [hr, hr']
      exact ⟨congrArg (RunOutcome.ofAnswer · summary _) hlast.stats, rfl⟩
    · rcases he with he | he
      · exact RunOutcome.of_ofAnswer_error (houtcome.symm.trans he)
      · exact RunOutcome.of_ofAnswer_error (houtcome'.symm.trans he)

end Collaborators

/-! ## Files with the same rows -/

/-- The same rows in memory, over disks that agree but for the text that the file had at first. -/
def FileStore.SameRows (path content content' : String) (w w' : FileStore × Disk) : Prop :=
  w.1.path = path ∧ w'.1 = w.1 ∧ Disk.AgreeBut path content content' w.2 w'.2

theorem fileStoreDesk_keeps (path content content' : String) :
    fileStoreDesk.Keeps (FileStore.SameRows path content content') := by
  rintro state t policy ⟨s, d⟩ ⟨s', d'⟩ ⟨rfl, hsame, hdisks⟩
  obtain rfl : s' = s := hsame
  obtain ⟨hanswer, hrows, hafter⟩ := FileStore.apply_agreeBut hdisks state t policy
  exact ⟨hanswer, FileStore.Call.path_run ⟨state, t, policy⟩ (s', d), hrows, hafter⟩

/-- Two runs that differ in the order of the rows in the file of the store, in the order and the
repetitions of the zones and in the number of probes at once. The files open to the same store. The
runs hand the same changes to the store and make the same calls to the ticket system in the same
order, and leave the same rows and the same files but for the old file, if it still stands. They
count the same and take the same stock, and if they read the same clock they come out the same. -/
theorem Collaborators.run_reordered (c : Collaborators (FileStore × Disk) StoreError τ ρ φ)
    (hstore : c.store = fileStoreDesk) (settings : Settings) {zones : List String}
    (hzones : ∀ zone, zone ∈ zones ↔ zone ∈ settings.probing.zones) (concurrency : Nat)
    {disk : Disk} {path content content' : String} {rows rows' : List Row}
    (hfile : disk.files path = some (.file content))
    (hrows : (Json.Decoder.list Row.decoder).run content = .ok rows)
    (hrows' : (Json.Decoder.list Row.decoder).run content' = .ok rows') (hperm : rows.Perm rows')
    (hids : (rows.map (·.id)).Nodup) (moment moment' : Moment) (durationMs durationMs' : Nat)
    (desk : τ) (reports : ρ) :
    let disk' := disk.put path (some (.file content'))
    ∃ store, FileStore.open? disk path = .ok store ∧ FileStore.open? disk' path = .ok store ∧
      let r := c.run settings moment durationMs (store, disk) desk reports
      let r' := c.run (settings.reprobed zones concurrency) moment' durationMs' (store, disk') desk
        reports
      r'.trace = r.trace ∧ r'.desk = r.desk ∧ r'.store.1 = r.store.1 ∧
        Disk.AgreeBut path content content' r.store.2 r'.store.2 ∧
        (∀ o o', r.outcome = .ok o → r'.outcome = .ok o' →
          o'.stats = o.stats ∧
            o'.summary = { o.summary with moment := moment', durationMs := durationMs' }) ∧
        (moment' = moment → durationMs' = durationMs →
          r'.outcome = r.outcome ∧ r'.reports = r.reports) ∧
        ∀ e, r.outcome = .error e ∨ r'.outcome = .error e →
          settings.probing.zones = [] ∧ e = .tracker .noZones ∨
            ∃ failure, e = .report failure := by
  intro disk'
  have hread : readRows content = .ok (rows.mergeSort fun a b => decide (a.id ≤ b.id)) := by
    rw [readRows, hrows]
    rfl
  have hread' := (readRows_eq_of_perm hrows hrows' hperm hids).trans hread
  let store : FileStore := ⟨path, rows.mergeSort fun a b => decide (a.id ≤ b.id)⟩
  have hfile' : disk'.files path = some (.file content') := Files.set_same ..
  have hdisks : Disk.AgreeBut path content content' disk disk' := by
    refine ⟨fun p => ?_, rfl, rfl⟩
    by_cases hp : p = path
    · rw [hp]
      exact .inr ⟨rfl, hfile, hfile'⟩
    · exact .inl (Files.set_other _ _ hp)
  have hkeeps : c.store.Keeps (FileStore.SameRows path content content') :=
    hstore ▸ fileStoreDesk_keeps path content content'
  obtain ⟨⟨-, hsame, hafter⟩, hdesk, htrace, hrest⟩ :=
    c.run_alike hkeeps settings hzones concurrency (fetch_eq hstore store disk)
      (fetch_eq hstore store disk') ⟨rfl, rfl, hdisks⟩ moment moment' durationMs durationMs' desk
      reports
  exact ⟨store, FileStore.open?_of_file hfile hread, FileStore.open?_of_file hfile' hread', htrace,
    hdesk, hsame, hafter, hrest⟩

/-- Two rows and two zones, both in two orders, with no probe at once in the second run. -/
theorem Collaborators.run_reordered_backwards :
    let one : Row := ⟨1, "192.0.2.1", some 70, none, none, none, []⟩
    let two : Row := ⟨2, "192.0.2.2", none, none, some "b.example", none, []⟩
    let disk : Disk := .ofFile "ips.json" (some (rowsText [two, one]))
    let disk' := disk.put "ips.json" (some (.file (rowsText [one, two])))
    let lookup : Lookup := fun name =>
      if name = "1.2.0.192.a.example" then .answer (.addresses [⟨127, 0, 0, 2⟩]) 300
      else .answer (.noName none) 10
    let settings : Settings :=
      { Settings.standard with
        probing := ⟨["a.example", "b.example"], 5, 10, false⟩ }
    let zones := ["b.example", "a.example", "b.example"]
    let c : Collaborators (FileStore × Disk) StoreError Nat Unit Unit :=
      ⟨fileStoreDesk, .silent, ⟨fun _ r => (.ok [], r)⟩, fun _ _ => lookup, fun _ => .silence,
        fun _ => .silence⟩
    let store : FileStore := ⟨"ips.json", [one, two]⟩
    let r := c.run settings ⟨0, 0⟩ 0 (store, disk) 0 ()
    let r' := c.run (settings.reprobed zones 0) ⟨1, 0⟩ 5 (store, disk') 0 ()
    FileStore.open? disk "ips.json" = .ok store ∧ FileStore.open? disk' "ips.json" = .ok store ∧
      r'.trace = r.trace ∧ r'.desk = r.desk ∧
      (r.trace.filterMap Effect.tried?).map (·.id) = [1, 2] := by
  intro one two disk disk' lookup settings zones c store r r'
  have hfits : ∀ row ∈ [one, two], Row.OthersFit othersDepth row.others := by
    intro row hrow
    rcases List.mem_pair.1 hrow with rfl | rfl
    · exact .nil
    · exact .nil
  have hfits' : ∀ row ∈ [two, one], Row.OthersFit othersDepth row.others := fun row hrow =>
    hfits row (List.mem_pair.2 (List.mem_pair.1 hrow).symm)
  have hzones : ∀ zone, zone ∈ zones ↔ zone ∈ settings.probing.zones := by
    intro zone
    simp [zones, settings]
    tauto
  have hfile : disk.files "ips.json" = some (.file (rowsText [two, one])) := rfl
  have hfile' : disk'.files "ips.json" = some (.file (rowsText [one, two])) := rfl
  obtain ⟨opened, hopen, hopen', htrace, hdesk, -⟩ :=
    c.run_reordered rfl settings hzones 0 hfile (run_rowsText hfits') (run_rowsText hfits)
      (List.Perm.swap one two []) (by decide) ⟨0, 0⟩ ⟨1, 0⟩ 0 5 0 ()
  have hread : readRows (rowsText [one, two]) = .ok store.rows :=
    readRows_rowsText ⟨by decide, hfits⟩
  have hstore : opened = store :=
    Except.ok.inj (hopen'.symm.trans (FileStore.open?_of_file hfile' hread))
  rw [hstore] at hopen hopen' htrace hdesk
  have hsome : settings.probing.zones ≠ [] := List.cons_ne_nil _ _
  have htried : (r.trace.filterMap Effect.tried?).map (·.id) = [1, 2] := by
    have htried := c.run_tried hsome (fetch_eq rfl store disk) ⟨0, 0⟩ 0 0 () rfl
    rw [htried]
    decide +kernel
  exact ⟨hopen, hopen', htrace, hdesk, htried⟩

end BlocklistWatch
