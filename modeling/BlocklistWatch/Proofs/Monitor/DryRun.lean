import BlocklistWatch.Proofs.Monitor.Convergence
import BlocklistWatch.Proofs.Monitor.Order
import BlocklistWatch.Proofs.Monitor.Predicted

/-!
# Dry runs

A dry run decides what a real one would decide and leaves everything outside as it was but for its
reports. Whatever the store and the ticket system do in the real run, both count the same decisions
and take the same stock of the zones.

* `file_of_publishTo`: reports leave the other files of their disk alone.
* `Collaborators.run_foretold` compares a dry run and a real one from the same starting point.
-/

namespace BlocklistWatch

variable {τ ρ φ : Type}

/-! ## Reports beside a file -/

namespace Disk

theorem files_of_any_write {d d' : Disk} {path content p : String} {answer : Except FileError Unit}
    (h : d.step (.write path content) = (answer, d')) (hp : p ≠ path) : d'.files p = d.files p := by
  cases answer with
  | error e => exact files_of_failed_write h hp
  | ok _ => rw [files_of_write h, Files.set_other _ _ hp]

/-- A directory is not made in place of a file. -/
theorem file_of_makeDirectory {d d' : Disk} {path p content : String}
    {answer : Except FileError Unit} (h : d.step (.makeDirectory path) = (answer, d'))
    (hp : d.files p = some (.file content)) : d'.files p = some (.file content) := by
  obtain ⟨-, -, ⟨-, hperform⟩ | ⟨e, -, ⟨-, hf⟩ | ⟨m, -, hf⟩⟩⟩ := of_step h
  · simp only [perform] at hperform
    split at hperform
    · next hnone =>
      have hne : p ≠ path := by
        rintro rfl
        exact absurd (hp.symm.trans hnone) (by simp)
      rw [← Except.ok.inj hperform, Files.set_other _ _ hne, hp]
    · rw [← Except.ok.inj hperform, hp]
    · exact absurd hperform (by simp)
  · rw [hf, hp]
  · rw [hf]
    exact hp

end Disk

theorem step_of_reportStep {path : String} {action : FileAction} {disk disk' : Disk}
    {answer : Except ReportError Unit} (h : reportStep path action disk = (answer, disk')) :
    ∃ answer', disk.step action = (answer', disk') := by
  unfold reportStep at h
  rcases hstep : disk.step action with ⟨e | _, after⟩
  all_goals
    rw [hstep] at h
    exact ⟨_, by rw [← (Prod.mk.inj h).2]⟩

theorem files_of_writeFiles {dir p : String} {reports : List (String × String)}
    (h : ∀ report ∈ reports, p ≠ pathIn dir report.1) (disk : Disk) :
    (writeFiles dir reports disk).2.files p = disk.files p := by
  induction reports generalizing disk with
  | nil => rfl
  | cons report rest ih =>
    obtain ⟨hhere, hrest⟩ := List.forall_mem_cons.1 h
    unfold writeFiles
    rcases hwrite : reportStep (pathIn dir report.1) (.write (pathIn dir report.1) report.2) disk with
      ⟨answer, after⟩
    obtain ⟨_, hstep⟩ := step_of_reportStep hwrite
    have hfirst : after.files p = disk.files p := Disk.files_of_any_write hstep hhere
    have hmore := (ih hrest after).trans hfirst
    cases answer with
    | error e =>
      simp only [hwrite]
      exact hfirst
    | ok _ =>
      simp only [hwrite]
      rcases hrest' : writeFiles dir rest after with ⟨e | paths, last⟩
      all_goals
        rw [hrest'] at hmore
        exact hmore

/-- Publishing reports leaves a file alone whose place none of them takes. -/
theorem file_of_publishTo {dir p content : String} {disk : Disk}
    (hsummary : p ≠ pathIn dir summaryFile) (hpruned : p ≠ pathIn dir prunedFile)
    (hp : disk.files p = some (.file content)) (summary : HealthSummary) :
    (publishTo dir summary disk).2.files p = some (.file content) := by
  unfold publishTo
  rcases hmake : reportStep dir (.makeDirectory dir) disk with ⟨answer, after⟩
  obtain ⟨_, hstep⟩ := step_of_reportStep hmake
  have hmade : after.files p = some (.file content) := Disk.file_of_makeDirectory hstep hp
  cases answer with
  | error e => exact hmade
  | ok _ =>
    refine (files_of_writeFiles (fun report hreport => ?_) after).trans hmade
    rcases List.mem_pair.1 hreport with rfl | rfl
    · exact hsummary
    · exact hpruned

/-! ## Dry and real -/

/-- A dry run and a real one from the same starting point, where in the real one any write and any
call to the ticket system may fail. The dry run leaves the rows, the disk and the ticket system as
they were, and its reports leave the file of the rows alone if they do not take its place. Its
counters are those of decisions only. They, the summary but for its time and duration, and what was
decided about each address are those of the real run. Where both read the same clock the reports are
the same and one ends well if the other does; no run fails but for want of zones or in handing its
reports over. -/
theorem Collaborators.run_foretold (c : Collaborators (FileStore × Disk) StoreError τ ρ φ)
    (hstore : c.store = fileStoreDesk) (settings : Settings) (store : FileStore) (disk : Disk)
    (desk : τ) (reports : ρ) (moment moment' : Moment) (durationMs durationMs' : Nat) :
    let dry := c.run { settings with dryRun := true } moment durationMs (store, disk) desk reports
    let wet := c.run { settings with dryRun := false } moment' durationMs' (store, disk) desk reports
    dry.store = (store, disk) ∧ dry.desk = desk ∧
      (∀ effect ∈ dry.trace, ∃ entry, effect = .checked entry) ∧
      (∀ dir summary content, store.path ≠ pathIn dir summaryFile →
        store.path ≠ pathIn dir prunedFile → disk.files store.path = some (.file content) →
          (publishTo dir summary dry.store.2).2.files store.path = some (.file content)) ∧
      (∀ o, dry.outcome = .ok o → o.stats = o.stats.decided) ∧
      (∀ o o', dry.outcome = .ok o → wet.outcome = .ok o' →
        o.stats = o'.stats.decided ∧
          o.summary = { o'.summary with moment := moment, durationMs := durationMs }) ∧
      (dry.trace.filterMap Effect.entry?).map (fun e => (e.ip, e.kind)) =
        (wet.trace.filterMap Effect.entry?).map (fun e => (e.ip, e.kind)) ∧
      (moment = moment' → durationMs = durationMs' →
        dry.reports = wet.reports ∧
          dry.outcome = wet.outcome.map fun o => { o with stats := o.stats.decided }) ∧
      ∀ e, dry.outcome = .error e ∨ wet.outcome = .error e →
        settings.probing.zones = [] ∧ e = .tracker .noZones ∨ ∃ failure, e = .report failure := by
  intro dry wet
  let dryly : Settings := { settings with dryRun := true }
  let wetly : Settings := { settings with dryRun := false }
  have hfetch := fetch_eq hstore store disk
  have hchecked : ∀ effect ∈ dry.trace, ∃ entry, effect = .checked entry :=
    c.run_of_dryRun rfl moment durationMs (store, disk) desk reports
  by_cases hzones : settings.probing.zones = []
  · have hdry : dry = ⟨.error (.tracker .noZones), (store, disk), desk, reports, [], 0⟩ :=
      c.run_eq_of_no_zones dryly hzones hfetch moment durationMs desk reports
    have hwet : wet = ⟨.error (.tracker .noZones), (store, disk), desk, reports, [], 0⟩ :=
      c.run_eq_of_no_zones wetly hzones hfetch moment' durationMs' desk reports
    rw [hdry, hwet]
    refine ⟨rfl, rfl, fun _ h => absurd h List.not_mem_nil,
      fun dir summary content hsummary hpruned hfile =>
        file_of_publishTo hsummary hpruned hfile summary,
      fun o ho => absurd ho (by simp), fun o o' ho => absurd ho (by simp), rfl,
      fun _ _ => ⟨rfl, rfl⟩, fun e he => .inl ⟨hzones, ?_⟩⟩
    rcases he with he | he
    all_goals exact (Except.error.inj he).symm
  · obtain ⟨hreports, stats, hstats, hquiet, hdry⟩ :=
      c.run_settled dryly hzones hfetch moment durationMs desk reports
    obtain ⟨hreports', stats', hstats', -, hwet⟩ :=
      c.run_settled wetly hzones hfetch moment' durationMs' desk reports
    obtain ⟨hsame, hdesk, hstored⟩ := hquiet rfl
    -- Neither the decisions nor the tracker know whether the run is a dry one.
    have hcounts : stats = stats'.decided := hsame.trans (hstats.trans hstats'.symm)
    have hdryly : dryly.probing.zones ≠ [] := hzones
    have hwetly : wetly.probing.zones ≠ [] := hzones
    have hentries := (c.run_entries hdryly hfetch moment durationMs desk reports).trans
      (c.run_entries hwetly hfetch moment' durationMs' desk reports).symm
    have hdry' : dry.outcome = _ := hdry
    have hwet' : wet.outcome = _ := hwet
    refine ⟨hstored, hdesk, hchecked, fun dir summary content hsummary hpruned hfile => ?_,
      fun o ho => ?_, fun o o' ho ho' => ?_, hentries, fun hmoment hduration => ⟨?_, ?_⟩,
      fun e he => .inr ?_⟩
    · have hkept : dry.store.2 = disk := congrArg Prod.snd hstored
      rw [hkept]
      exact file_of_publishTo hsummary hpruned hfile summary
    · rw [(RunOutcome.of_ofAnswer_ok (hdry'.symm.trans ho)).1]
      exact hsame
    · obtain ⟨hstats, hsummary⟩ := RunOutcome.of_ofAnswer_ok (hdry'.symm.trans ho)
      obtain ⟨hstats', hsummary'⟩ := RunOutcome.of_ofAnswer_ok (hwet'.symm.trans ho')
      rw [hstats, hstats', hsummary, hsummary']
      exact ⟨hcounts, rfl⟩
    · subst hmoment hduration
      exact hreports.trans hreports'.symm
    · subst hmoment hduration
      rw [hdry', hwet', hcounts]
      exact RunOutcome.ofAnswer_decided stats' _ _
    · rcases he with he | he
      · exact RunOutcome.of_ofAnswer_error (hdry'.symm.trans he)
      · exact RunOutcome.of_ofAnswer_error (hwet'.symm.trans he)

/-- Two rows, one to be listed and one to recover; in the real run the first cannot be written, and
the ticket system does not answer about the second. -/
theorem Collaborators.run_foretold_failing :
    let rows : List Row :=
      [⟨1, "192.0.2.1", some 70, none, none, none, []⟩,
        ⟨2, "192.0.2.2", some 0, some 60, some "a.example", none, []⟩]
    let disk : Disk := ⟨Files.set (fun _ => none) "ips.json" (some (.file (rowsText rows))), [],
      fun n => if n = 0 then some ⟨.permissionDenied, none⟩ else none⟩
    let tickets : TicketDesk Nat :=
      { TicketDesk.silent with find := fun _ n => (.error (.transport "gone"), n + 1) }
    let lookup : Lookup := fun name =>
      .answer (if name = "1.2.0.192.a.example" then .addresses [⟨127, 0, 0, 2⟩]
        else .noName none) 0
    let settings : Settings :=
      { Settings.standard with probing := { ProbeSettings.standard with zones := ["a.example"] } }
    let c : Collaborators (FileStore × Disk) StoreError Nat Unit Unit :=
      ⟨fileStoreDesk, tickets, ⟨fun _ r => (.ok [], r)⟩, fun _ _ => lookup, fun _ => .silence,
        fun _ => .silence⟩
    let dry :=
      c.run { settings with dryRun := true } ⟨0, 0⟩ 0 (⟨"ips.json", rows⟩, disk) 0 ()
    let wet :=
      c.run { settings with dryRun := false } ⟨1, 0⟩ 5 (⟨"ips.json", rows⟩, disk) 0 ()
    dry.desk = 0 ∧ wet.desk = 1 ∧
      ∃ o o', dry.outcome = .ok o ∧ wet.outcome = .ok o' ∧
        o.summary = { o'.summary with moment := ⟨0, 0⟩, durationMs := 0 } ∧
        o.stats = o'.stats.decided ∧ o'.stats = ⟨2, 1, 1, 0, 0, 0, 1, 1⟩ := by
  intro rows disk tickets lookup settings c dry wet
  obtain ⟨-, hdesk, -, -, -, hagree, -⟩ := c.run_foretold rfl settings ⟨"ips.json", rows⟩ disk 0 ()
    ⟨0, 0⟩ ⟨1, 0⟩ 0 5
  have hstats : wet.outcome.toOption.map (·.stats) = some ⟨2, 1, 1, 0, 0, 0, 1, 1⟩ := by
    decide +kernel
  have hends : ∀ outcome : Except (RunError StoreError Unit) RunOutcome, outcome.isOk = true →
      ∃ o, outcome = .ok o := by
    intro outcome hok
    cases outcome with
    | ok o => exact ⟨o, rfl⟩
    | error e => exact absurd hok Bool.false_ne_true
  obtain ⟨o, ho⟩ := hends dry.outcome (by decide +kernel)
  obtain ⟨o', ho'⟩ := hends wet.outcome (by decide +kernel)
  rw [ho'] at hstats
  obtain ⟨hcounts, hsummary⟩ := hagree o o' ho ho'
  exact ⟨hdesk, by decide +kernel, o, o', ho, ho', hsummary, hcounts, Option.some.inj hstats⟩

end BlocklistWatch
