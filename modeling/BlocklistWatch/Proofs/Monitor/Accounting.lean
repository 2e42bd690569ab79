import Mathlib.Data.List.Induction
import BlocklistWatch.Proofs.Monitor.Outage
import BlocklistWatch.Proofs.Monitor.Predicted

/-!
# The books of a run

The counters of a run can be checked against its trace: make the calls of the trace again, from the
states that the store and the ticket system were in, and count what they are answered. Every address
is counted under one kind of decision, every decision to change something is one call of the store,
and for every change that was written there is at most one thing done about a ticket.

* `Answered` is what the answer to a call comes to, `Collaborators.replay` the calls of a trace made
  again.
* `RunStats.Tallies` says that counters agree with answers, `Answered.Match` that answers agree with
  a trace.
* `RunState.Accounted` is what holds after any addresses; `RunState.Accounted.visit` keeps it over
  one address, `RunState.accounted_foldl_visit` over all, and `RunState.Accounted.ended` says what the
  report of an outage adds.
* `Collaborators.run_accounts` is the whole run.
-/

namespace BlocklistWatch

variable {σ ε τ ρ φ : Type}

/-! ## Answers -/

/-- What the answer of the store or of the ticket system comes to. -/
inductive Answered where
  | written
  | unwritten
  /-- An issue was opened, about an address or about an outage. -/
  | opened
  | commented
  /-- A call about the ticket of an address failed. -/
  | failed
  /-- An outage could not be reported. -/
  | unreported
deriving DecidableEq

/-- Makes a call; there is nothing to count about an open issue that was looked for and found or
not. -/
def TicketDesk.answer (tickets : TicketDesk τ) (desk : τ) : TicketCall → Option Answered × τ
  | .find ip =>
    match tickets.find ip desk with
    | (.ok _, desk) => (none, desk)
    | (.error _, desk) => (some .failed, desk)
  | .create ip zones description =>
    match tickets.create ip zones description desk with
    | (.ok _, desk) => (some .opened, desk)
    | (.error _, desk) => (some .failed, desk)
  | .comment key body =>
    match tickets.comment key body desk with
    | (.ok (), desk) => (some .commented, desk)
    | (.error _, desk) => (some .failed, desk)
  | .outage fraction zones =>
    match tickets.outage fraction zones desk with
    | (.ok _, desk) => (some .opened, desk)
    | (.error _, desk) => (some .unreported, desk)

namespace Collaborators

def answer (c : Collaborators σ ε τ ρ φ) (settings : Settings) (w : σ × τ) :
    Effect → Option Answered × (σ × τ)
  | .apply state t _ =>
    match c.store.apply state t settings.priority w.1 with
    | (.ok _, store) => (some .written, store, w.2)
    | (.error _, store) => (some .unwritten, store, w.2)
  | .ticket call =>
    let (answered, desk) := c.tickets.answer w.2 call
    (answered, w.1, desk)
  | .checked _ => (none, w)

/-- The answers to the calls of a trace, made one after another from a state of the store and one of
the ticket system, and the states that they leave. -/
def replay (c : Collaborators σ ε τ ρ φ) (settings : Settings) :
    List Effect → σ × τ → List Answered × (σ × τ)
  | [], w => ([], w)
  | effect :: effects, w =>
    let (first, w) := c.answer settings w effect
    let (more, w) := c.replay settings effects w
    (first.toList ++ more, w)

variable {c : Collaborators σ ε τ ρ φ} {settings : Settings}

theorem replay_append (first more : List Effect) (w : σ × τ) :
    c.replay settings (first ++ more) w =
      ((c.replay settings first w).1 ++ (c.replay settings more (c.replay settings first w).2).1,
        (c.replay settings more (c.replay settings first w).2).2) := by
  induction first generalizing w with
  | nil => rfl
  | cons effect first ih => simp only [List.cons_append, replay, ih, List.append_assoc]

end Collaborators

/-- What the answers to the calls about a transition come to, by what was done about the ticket. -/
def TicketAction.answered : TicketAction → List Answered
  | created _ => [.opened]
  | updated _ => [.commented]
  | failed => [.failed]
  | none | dryRun => []

section Replay

variable {c : Collaborators σ ε τ ρ φ} {settings : Settings}

theorem Told.replay {t : Transition} {store : σ} {desk desk' : τ} {calls : List TicketCall}
    {action : TicketAction} (h : Told c.tickets t desk calls action desk') :
    c.replay settings (calls.map Effect.ticket) (store, desk) = (action.answered, store, desk') := by
  cases h with
  | unanswered hfind =>
    simp only [List.map_cons, List.map_nil, Collaborators.replay, Collaborators.answer,
      TicketDesk.answer, hfind]
    rfl
  | @opened desk₁ _ answer hfind _ hcreate =>
    simp only [List.map_cons, List.map_nil, Collaborators.replay, Collaborators.answer,
      TicketDesk.answer, hfind, hcreate]
    cases answer <;> rfl
  | @commented desk₁ _ issue body answer hfind _ hcomment =>
    simp only [List.map_cons, List.map_nil, Collaborators.replay, Collaborators.answer,
      TicketDesk.answer, hfind, hcomment]
    cases answer <;> rfl
  | settled hfind _ =>
    simp only [List.map_cons, List.map_nil, Collaborators.replay, Collaborators.answer,
      TicketDesk.answer, hfind]
    rfl

theorem replay_checked (c : Collaborators σ ε τ ρ φ) (settings : Settings) (entry : CheckEntry)
    (w : σ × τ) : c.replay settings [.checked entry] w = ([], w) := rfl

theorem replay_refused {state : IpState} {t : Transition} {store store' : σ} {e : ε} (desk : τ)
    (entry : CheckEntry) (happly : c.store.apply state t settings.priority store = (.error e, store')) :
    c.replay settings (Effect.ofChange state t false [] entry) (store, desk) =
      ([.unwritten], store', desk) := by
  simp only [Effect.ofChange, List.map_nil, List.cons_append, List.nil_append, Collaborators.replay,
    Collaborators.answer, happly]
  rfl

theorem replay_accepted {state : IpState} {t : Transition} {store store' : σ} {written : Bool}
    {desk desk' : τ} {calls : List TicketCall} {action : TicketAction} (entry : CheckEntry)
    (happly : c.store.apply state t settings.priority store = (.ok written, store'))
    (htold : Told c.tickets t desk calls action desk') :
    c.replay settings (Effect.ofChange state t true calls entry) (store, desk) =
      (.written :: action.answered, store', desk') := by
  simp only [Effect.ofChange, List.cons_append, Collaborators.replay, Collaborators.answer, happly,
    Collaborators.replay_append, htold.replay, List.append_nil, Option.toList_none]
  rfl

end Replay

/-! ## Counters -/

/-- Counters of the store and of the ticket system that agree with some answers. -/
structure RunStats.Tallies (s : RunStats) (answers : List Answered) : Prop where
  storeFailures : s.storeFailures = answers.count .unwritten
  ticketsCreated : s.ticketsCreated = answers.count .opened
  ticketsUpdated : s.ticketsUpdated = answers.count .commented
  ticketFailures : s.ticketFailures = answers.count .failed + answers.count .unreported

namespace RunStats.Tallies

variable {s : RunStats} {answers : List Answered}

theorem zero : RunStats.zero.Tallies [] :=
  ⟨rfl, rfl, rfl, rfl⟩

theorem afterAddress (h : s.Tallies answers) (kind : Option TransitionKind) :
    (s.afterAddress kind).Tallies answers := by
  obtain ⟨hstore, hcreated, hupdated, hfailures⟩ := h
  cases kind with
  | none => exact ⟨hstore, hcreated, hupdated, hfailures⟩
  | some kind => cases kind <;> exact ⟨hstore, hcreated, hupdated, hfailures⟩

theorem written (h : s.Tallies answers) : s.Tallies (answers ++ [.written]) := by
  obtain ⟨hstore, hcreated, hupdated, hfailures⟩ := h
  constructor <;> simp [List.count_append, *]

theorem unwritten (h : s.Tallies answers) :
    RunStats.Tallies { s with storeFailures := s.storeFailures + 1 } (answers ++ [.unwritten]) := by
  obtain ⟨hstore, hcreated, hupdated, hfailures⟩ := h
  constructor <;> simp [List.count_append, *]

theorem unreported (h : s.Tallies answers) :
    (TicketAction.failed.count s).Tallies (answers ++ [.unreported]) := by
  obtain ⟨hstore, hcreated, hupdated, hfailures⟩ := h
  constructor <;> simp [TicketAction.count, List.count_append, Nat.add_assoc, *]

theorem count (h : s.Tallies answers) (action : TicketAction) :
    (action.count s).Tallies (answers ++ action.answered) := by
  obtain ⟨hstore, hcreated, hupdated, hfailures⟩ := h
  cases action <;> constructor <;>
    simp [TicketAction.count, TicketAction.answered, List.count_append, Nat.add_right_comm, *]

end RunStats.Tallies

/-! ## Answers and traces -/

namespace Effect

/-- The number of addresses whose ticket could not be handled, as a trace logs them. -/
def failures (trace : List Effect) : Nat :=
  (trace.filterMap entry?).countP fun entry => entry.action = .failed

theorem failures_append (trace more : List Effect) :
    failures (trace ++ more) = failures trace + failures more := by
  rw [failures, List.filterMap_append, List.countP_append]
  rfl

theorem failures_checked (entry : CheckEntry) :
    failures [.checked entry] = entry.action.answered.count .failed := by
  have hentries : [checked entry].filterMap entry? = [entry] := rfl
  rw [failures, hentries, List.countP_singleton]
  cases entry.action <;> rfl

theorem failures_ofChange (state : IpState) (t : Transition) (accepted : Bool)
    (calls : List TicketCall) (entry : CheckEntry) :
    failures (ofChange state t accepted calls entry) = entry.action.answered.count .failed := by
  rw [← failures_checked, failures, entry?_ofChange]
  rfl

end Effect

/-- The answers that belong to a trace of addresses: one for each transition that was handed to the
store, at most one about a ticket for each that was written, a failed one where the trace logs it, and
none about an outage. -/
structure Answered.Match (trace : List Effect) (answers : List Answered) : Prop where
  asked : answers.count .written + answers.count .unwritten =
    (trace.filterMap Effect.tried?).length
  heard : answers.count .opened + answers.count .commented + answers.count .failed ≤
    answers.count .written
  logged : answers.count .failed = Effect.failures trace
  unreported : answers.count .unreported = 0

namespace Answered.Match

theorem nil : Match [] [] :=
  ⟨rfl, Nat.le_refl 0, rfl, rfl⟩

theorem append {trace more : List Effect} {answers new : List Answered} (h : Match trace answers)
    (hmore : Match more new) : Match (trace ++ more) (answers ++ new) := by
  obtain ⟨hasked, hheard, hlogged, hunreported⟩ := h
  obtain ⟨hasked', hheard', hlogged', hunreported'⟩ := hmore
  constructor
  · rw [List.filterMap_append, List.length_append]
    simp only [List.count_append]
    omega
  · simp only [List.count_append]
    omega
  · rw [List.count_append, hlogged, hlogged', Effect.failures_append]
  · rw [List.count_append, hunreported, hunreported']

theorem checked {entry : CheckEntry} (haction : entry.action.answered = []) :
    Match [.checked entry] [] := by
  refine ⟨rfl, Nat.le_refl 0, ?_, rfl⟩
  rw [Effect.failures_checked, haction]

theorem refused (state : IpState) (t : Transition) {entry : CheckEntry}
    (haction : entry.action.answered = []) :
    Match (Effect.ofChange state t false [] entry) [.unwritten] := by
  refine ⟨?_, Nat.le_refl 0, ?_, rfl⟩
  · rw [Effect.tried?_ofChange]
    rfl
  · rw [Effect.failures_ofChange, haction]
    rfl

theorem accepted (state : IpState) (t : Transition) (calls : List TicketCall)
    (entry : CheckEntry) :
    Match (Effect.ofChange state t true calls entry) (.written :: entry.action.answered) := by
  refine ⟨?_, ?_, ?_, ?_⟩
  · rw [Effect.tried?_ofChange]
    cases entry.action <;> simp [TicketAction.answered]
  · cases entry.action <;> simp [TicketAction.answered]
  · rw [Effect.failures_ofChange, List.count_cons_of_ne (by decide)]
  · cases entry.action <;> simp [TicketAction.answered]

/-- The answers of a whole run: one more if an outage was reported. -/
theorem ended {trace : List Effect} {answers new : List Answered} {detected : Bool}
    (h : Match trace answers)
    (hnew : new = [] ∨ detected = true ∧ (new = [.opened] ∨ new = [.unreported])) :
    let all := answers ++ new
    all.count .written + all.count .unwritten = (trace.filterMap Effect.tried?).length ∧
      all.count .opened + all.count .commented + (all.count .failed + all.count .unreported) ≤
        all.count .written + (if detected then 1 else 0) ∧
      all.count .failed = Effect.failures trace := by
  obtain ⟨hasked, hheard, hlogged, hunreported⟩ := h
  have hone : new.count .written = 0 ∧ new.count .unwritten = 0 ∧ new.count .commented = 0 ∧
      new.count .failed = 0 ∧
      new.count .opened + new.count .unreported ≤ if detected then 1 else 0 := by
    rcases hnew with rfl | ⟨rfl, rfl | rfl⟩
    · exact ⟨rfl, rfl, rfl, rfl, Nat.zero_le _⟩
    · decide
    · decide
  obtain ⟨hwritten, hunwritten, hcommented, hfailed, houtage⟩ := hone
  simp only [List.count_append]
  exact ⟨by omega, by omega, by omega⟩

end Answered.Match

/-! ## One address after another -/

namespace RunState

/-- The state of a run that began with the store and the ticket system in the states `w`, and the
answers to its calls, before stock is taken. -/
structure Accounted (c : Collaborators σ ε τ ρ φ) (settings : Settings) (w : σ × τ)
    (s : RunState σ τ) (answers : List Answered) : Prop where
  replay : c.replay settings s.trace w = (answers, s.store, s.desk)
  tallies : s.stats.Tallies answers
  traced : Answered.Match s.trace answers

variable {c : Collaborators σ ε τ ρ φ} {settings : Settings} {w : σ × τ} {s : RunState σ τ}
  {answers : List Answered}

theorem accounted_start (c : Collaborators σ ε τ ρ φ) (settings : Settings) (store : σ) (desk : τ) :
    Accounted c settings (store, desk) (start settings store desk) [] :=
  ⟨rfl, .zero, .nil⟩

theorem Accounted.extend (h : Accounted c settings w s answers) {s' : RunState σ τ}
    {effects : List Effect} {new : List Answered} (htrace : s'.trace = s.trace ++ effects)
    (hreplay : c.replay settings effects (s.store, s.desk) = (new, s'.store, s'.desk))
    (htallies : s'.stats.Tallies (answers ++ new)) (hnew : Answered.Match effects new) :
    Accounted c settings w s' (answers ++ new) where
  replay := by rw [htrace, Collaborators.replay_append, h.replay, hreplay]
  tallies := htallies
  traced := by
    rw [htrace]
    exact h.traced.append hnew

theorem Accounted.visit (h : Accounted c settings w s answers) (v : Visit) :
    ∃ new, Accounted c settings w (visit c settings s v) (answers ++ new) := by
  cases (visited c settings s v).1 with
  | unchanged _ _ _ hstore hdesk hstats htrace haction =>
    refine ⟨[], h.extend htrace ?_ ?_ (.checked (by rw [haction]; rfl))⟩
    · rw [replay_checked, hstore, hdesk]
    · rw [hstats, List.append_nil]
      exact h.tallies.afterAddress none
  | logged _ _ _ _ hstore hdesk hstats htrace haction =>
    refine ⟨[], h.extend htrace ?_ ?_ (.checked (by rw [haction]; rfl))⟩
    · rw [replay_checked, hstore, hdesk]
    · rw [hstats, List.append_nil]
      exact h.tallies.afterAddress (some _)
  | refused _ _ _ _ happly hdesk hcounted hstats htrace haction =>
    refine ⟨[.unwritten], h.extend htrace ?_ ?_ (.refused _ _ (by rw [haction]; rfl))⟩
    · rw [replay_refused s.desk _ happly, hdesk]
    · rw [hstats, hcounted]
      exact (h.tallies.afterAddress (some _)).unwritten
  | accepted _ _ _ _ happly htold hstats htrace haction =>
    subst haction
    -- The counters move in the order of the answers: the store's first, then that about the ticket.
    refine ⟨_, h.extend htrace (replay_accepted _ happly htold) ?_ (.accepted _ _ _ _)⟩
    rw [hstats, List.append_cons]
    exact (h.tallies.afterAddress (some _)).written.count _

theorem accounted_foldl_visit (vs : List Visit) (h : Accounted c settings w s answers) :
    ∃ answers', Accounted c settings w (vs.foldl (RunState.visit c settings) s) answers' := by
  induction vs generalizing s answers with
  | nil => exact ⟨answers, h⟩
  | cons v vs ih =>
    obtain ⟨new, hnew⟩ := h.visit v
    exact ih hnew

/-! ## The end -/

theorem reportOutage_told (tickets : TicketDesk τ) (hwet : settings.dryRun = false)
    (summary : HealthSummary) (s : RunState σ τ) :
    let s' := reportOutage tickets settings summary s
    let zones := summary.brokenZoneNames
    ∃ answer, tickets.outage summary.brokenFraction zones s.desk = (answer, s'.desk) ∧
      s'.store = s.store ∧ s'.stats = (TicketAction.ofOpening answer).count s.stats ∧
      s'.trace = s.trace ++ [.ticket (.outage summary.brokenFraction zones)] := by
  unfold reportOutage
  rw [if_neg (by simp [hwet])]
  refine ⟨_, rfl, rfl, ?_, trace_did _ _⟩
  dsimp only
  cases (tickets.outage summary.brokenFraction summary.brokenZoneNames s.desk).1 <;> rfl

/-- The report of an outage is one more call, which opens an issue or fails. -/
theorem Accounted.reportOutage (h : Accounted c settings w s answers)
    (hwet : settings.dryRun = false) (summary : HealthSummary) :
    let s' := reportOutage c.tickets settings summary s
    ∃ new, (new = .opened ∨ new = .unreported) ∧
      c.replay settings s'.trace w = (answers ++ [new], s'.store, s'.desk) ∧
      s'.stats.Tallies (answers ++ [new]) ∧
      Effect.failures s'.trace = Effect.failures s.trace := by
  intro s'
  obtain ⟨answer, houtage, hstore, hstats, htrace⟩ := reportOutage_told c.tickets hwet summary s
  rw [htrace, Collaborators.replay_append, h.replay, Effect.failures_append, hstore, hstats]
  simp only [Collaborators.replay, Collaborators.answer, TicketDesk.answer, houtage]
  cases answer with
  | error e => exact ⟨.unreported, .inr rfl, rfl, h.tallies.unreported, rfl⟩
  | ok key => exact ⟨.opened, .inl rfl, rfl, h.tallies.count (.created key), rfl⟩

theorem Accounted.ended (h : Accounted c settings w s answers) (summary : HealthSummary) :
    let s' := ended c settings summary s
    ∃ new, (new = [] ∨ summary.issueDetected = true ∧ (new = [.opened] ∨ new = [.unreported])) ∧
      c.replay settings s'.trace w = (answers ++ new, s'.store, s'.desk) ∧
      s'.stats.Tallies (answers ++ new) ∧ Effect.failures s'.trace = Effect.failures s.trace := by
  intro s'
  have hlater : Accounted c settings w
      { s with elapsed := s.elapsed + (c.askOutside settings).2 } answers :=
    ⟨h.replay, h.tallies, h.traced⟩
  by_cases hreport : summary.issueDetected = true ∧ settings.dryRun = false
  · obtain ⟨new, hnew, hrest⟩ := hlater.reportOutage hreport.2 summary
    have hs' : s' = _ := if_pos hreport.1
    rw [hs']
    refine ⟨[new], .inr ⟨hreport.1, by simpa using hnew⟩, hrest⟩
  · have hs' : s' = { s with elapsed := s.elapsed + (c.askOutside settings).2 } := by
      by_cases hdetected : summary.issueDetected = true
      · -- A dry run detects an outage without reporting it.
        have hdry : settings.dryRun = true := by simpa [hdetected] using hreport
        exact ended_of_dryRun c hdry summary s
      · exact if_neg hdetected
    refine ⟨[], .inl rfl, ?_⟩
    rw [hs', List.append_nil]
    exact ⟨h.replay, h.tallies, rfl⟩

end RunState

/-! ## Decisions -/

theorem RunStats.afterAddress_counts (s : RunStats) (kind : Option TransitionKind) :
    let s' := s.afterAddress kind
    let change := if kind.isSome then 1 else 0
    s'.total = s.total + 1 ∧ s'.listed + s'.cleaned = s.listed + s.cleaned + change ∧
      s'.listed + s'.cleaned + s'.unchanged = s.listed + s.cleaned + s.unchanged + 1 := by
  cases kind with
  | none => exact ⟨rfl, rfl, rfl⟩
  | some kind =>
    cases kind <;> simp only [afterAddress, countKind, Option.isSome_some, if_true, true_and] <;>
      omega

/-- Every address is counted once, under what was decided about it. -/
theorem countsFor_counts (settings : Settings) (vs : List Visit) :
    let s := countsFor settings vs
    s.total = vs.length ∧
      s.listed + s.cleaned = vs.countP (fun v => (decision settings v).isSome) ∧
      s.listed + s.cleaned + s.unchanged = vs.length := by
  induction vs using List.reverseRecOn with
  | nil => exact ⟨rfl, rfl, rfl⟩
  | append_singleton vs v ih =>
    obtain ⟨htotal, hchanges, hkinds⟩ := ih
    obtain ⟨htotal', hchanges', hkinds'⟩ := (countsFor settings vs).afterAddress_counts
      ((decision settings v).map (·.kind))
    have hlast : countsFor settings (vs ++ [v]) =
        (countsFor settings vs).afterAddress ((decision settings v).map (·.kind)) :=
      List.foldl_concat ..
    rw [hlast, List.length_append, List.length_singleton, List.countP_append, List.countP_singleton]
    rw [hchanges, Option.isSome_map] at hchanges'
    exact ⟨by rw [htotal', htotal], hchanges', by rw [hkinds', hkinds]⟩

namespace RunState

theorem started_foldl_visit (c : Collaborators σ ε τ ρ φ) (settings : Settings)
    (vs : List Visit) (s : RunState σ τ) :
    (vs.foldl (visit c settings) s).tracker.started = s.tracker.started + vs.length := by
  induction vs generalizing s with
  | nil => rfl
  | cons v vs ih =>
    have hvisit : (visit c settings s v).tracker.started = s.tracker.started + 1 := by
      rw [tracker_visit]
      rfl
    rw [List.foldl_cons, ih, hvisit, List.length_cons]
    omega

/-- Every address was looked at, and every zone was asked about each. -/
theorem stock_counts (c : Collaborators σ ε τ ρ φ) (settings : Settings) (moment : Moment)
    (durationMs : Nat) (store : σ) (desk : τ) (vs : List Visit) :
    let summary := stock c settings moment durationMs store desk vs
    summary.checked = vs.length ∧
      summary.records.map (·.zone) = Text.sortNames settings.probing.zones ∧
      ∀ record ∈ summary.records, record.performed = vs.length := by
  intro summary
  have hrecords : summary.records = _ := records_run c settings store desk vs
  refine ⟨?_, ?_, fun record hrecord => ?_⟩
  · exact (started_foldl_visit c settings vs _).trans (Nat.zero_add _)
  · rw [hrecords, List.map_map]
    refine (List.map_congr_left fun zone _ => ?_).trans (List.map_id _)
    rw [Function.comp_apply, ZoneRecord.zone_afterAll, ZoneRecord.zone_fresh, id]
  · rw [hrecords] at hrecord
    obtain ⟨zone, -, rfl⟩ := List.mem_map.1 hrecord
    rw [ZoneRecord.performed_afterAll, List.length_map]
    exact Nat.zero_add _

/-- Outside a dry run the store is asked about every change. -/
theorem length_tried_run (c : Collaborators σ ε τ ρ φ) (settings : Settings) (store : σ) (desk : τ)
    (vs : List Visit) :
    let trace := (vs.foldl (visit c settings) (start settings store desk)).trace
    (trace.filterMap Effect.tried?).length =
      if settings.dryRun then 0
      else vs.countP fun v => (decision settings v).isSome := by
  intro trace
  cases hdry : settings.dryRun with
  | true =>
    obtain ⟨effects, htrace, hall⟩ :=
      handledAll_foldl_visit c settings vs (start settings store desk)
    have hnone : trace.filterMap Effect.tried? = [] := by
      refine List.filterMap_eq_nil_iff.2 fun effect heffect => ?_
      have hmem : effect ∈ (start settings store desk).trace ++ effects := htrace ▸ heffect
      obtain ⟨entry, rfl⟩ := hall.of_dryRun hdry effect hmem
      rfl
    rw [hnone]
    rfl
  | false =>
    have htried : trace.filterMap Effect.tried? = _ :=
      tried_foldl_visit (c := c) hdry vs (start settings store desk)
    rw [htried, List.countP_eq_length_filter, List.length_append, List.length_map]
    exact Nat.zero_add _

/-- The books at the very end of a run, by the answers to its calls. -/
theorem books_ended (c : Collaborators σ ε τ ρ φ) (settings : Settings) (summary : HealthSummary)
    (store : σ) (desk : τ) (vs : List Visit) :
    let s := ended c settings summary (vs.foldl (visit c settings) (start settings store desk))
    ∃ answers, c.replay settings s.trace (store, desk) = (answers, s.store, s.desk) ∧
      s.stats.Tallies answers ∧
      s.stats.total = vs.length ∧
      s.stats.listed + s.stats.cleaned + s.stats.unchanged = vs.length ∧
      s.stats.storeFailures ≤ s.stats.listed + s.stats.cleaned ∧
      answers.count .written = (if settings.dryRun then 0
        else s.stats.listed + s.stats.cleaned - s.stats.storeFailures) ∧
      s.stats.ticketsCreated + s.stats.ticketsUpdated + s.stats.ticketFailures ≤
        answers.count .written + (if summary.issueDetected then 1 else 0) ∧
      answers.count .failed = Effect.failures s.trace := by
  intro s
  obtain ⟨answers, haccounted⟩ :=
    accounted_foldl_visit vs (accounted_start c settings store desk)
  obtain ⟨new, hnew, hreplay, htallies, hlogged⟩ := haccounted.ended summary
  obtain ⟨hasked, hheard, hfailed⟩ := haccounted.traced.ended hnew
  have hdecided : s.stats.decided = countsFor settings vs :=
    (decided_ended c settings summary _).trans (decided_foldl_visit vs _)
  have hcounts := countsFor_counts settings vs
  rw [← hdecided] at hcounts
  obtain ⟨htotal, hchanges, hkinds⟩ :
    s.stats.total = vs.length ∧ s.stats.listed + s.stats.cleaned = _ ∧
      s.stats.listed + s.stats.cleaned + s.stats.unchanged = vs.length := hcounts
  have hstore : (answers ++ new).count .written + s.stats.storeFailures =
      if settings.dryRun then 0 else s.stats.listed + s.stats.cleaned := by
    rw [htallies.storeFailures, hasked, length_tried_run, hchanges]
  refine ⟨answers ++ new, hreplay, htallies, htotal, hkinds, ?_, ?_, ?_, hfailed.trans hlogged.symm⟩
  · split at hstore <;> omega
  · by_cases hdry : settings.dryRun = true
    · rw [if_pos hdry] at hstore ⊢
      omega
    · rw [if_neg hdry] at hstore ⊢
      omega
  · rw [htallies.ticketsCreated, htallies.ticketsUpdated, htallies.ticketFailures]
    exact hheard

end RunState

/-! ## Whole runs -/

namespace Collaborators

open RunState

/-- The books of a run that comes to an end. As many addresses were looked at as were fetched, at
every zone, and each is counted under one kind of decision. Outside a dry run the store was asked
about every change and took all but the failures. For each transition it took there was at most one
thing done about a ticket, and one more if an outage was detected; what was opened, what was commented
on and what failed is what the ticket system answered to the calls of the trace. -/
theorem run_accounts (c : Collaborators σ ε τ ρ φ) (settings : Settings) (moment : Moment)
    (durationMs : Nat) (store : σ) (desk : τ) (reports : ρ) {o : RunOutcome}
    (ho : (c.run settings moment durationMs store desk reports).outcome = .ok o) :
    let r := c.run settings moment durationMs store desk reports
    ∃ states store' answers, c.store.fetch store = (.ok states, store') ∧
      c.replay settings r.trace (store', desk) = (answers, r.store, r.desk) ∧
      o.stats.total = states.length ∧ o.summary.checked = states.length ∧
      o.stats.listed + o.stats.cleaned + o.stats.unchanged = states.length ∧
      o.summary.records.map (·.zone) = Text.sortNames settings.probing.zones ∧
      (∀ record ∈ o.summary.records, record.performed = states.length) ∧
      o.stats.storeFailures ≤ o.stats.listed + o.stats.cleaned ∧
      answers.count .written = (if settings.dryRun then 0
        else o.stats.listed + o.stats.cleaned - o.stats.storeFailures) ∧
      o.stats.ticketsCreated + o.stats.ticketsUpdated + o.stats.ticketFailures ≤
        answers.count .written + (if o.summary.issueDetected then 1 else 0) ∧
      o.stats.Tallies answers ∧
      answers.count .failed = Effect.failures r.trace := by
  intro r
  obtain ⟨hzones, states, store', hfetch⟩ :=
    c.fetched_of_ok settings moment durationMs store desk reports ho
  let vs := c.visits states
  let summary := stock c settings moment durationMs store' desk vs
  let last := ended c settings summary
    (vs.foldl (visit c settings) (RunState.start settings store' desk))
  have hr : r = ⟨RunOutcome.ofAnswer last.stats summary _, last.store, last.desk, _, last.trace, _⟩ :=
    (c.run_eq hzones hfetch moment durationMs desk reports).trans
      (c.finish_eq settings moment durationMs _ reports)
  obtain ⟨hstats, hsummary⟩ : o.stats = last.stats ∧ o.summary = summary :=
    RunOutcome.of_ofAnswer_ok ((congrArg RunResult.outcome hr).symm.trans ho)
  obtain ⟨answers, hreplay, htallies, htotal, hkinds, hstore, hwritten, hheard, hfailed⟩ :=
    books_ended c settings summary store' desk vs
  obtain ⟨hchecked, hzoned, hperformed⟩ :=
    stock_counts c settings moment durationMs store' desk vs
  have hlength : vs.length = states.length := c.length_visits states
  rw [hlength] at htotal hkinds hchecked hperformed
  rw [hr, hstats, hsummary]
  exact ⟨states, store', answers, hfetch, hreplay, htotal, hchecked, hkinds, hzoned, hperformed,
    hstore, hwritten, hheard, htallies, hfailed⟩

/-- Three addresses, two of them newly listed: the store fails about one and the ticket system about
the other, and an issue is opened about an outage. -/
theorem run_accounts_some_failing :
    let states : List IpState :=
      [⟨1, ⟨192, 0, 2, 1⟩, 50, none, .empty, none⟩, ⟨2, ⟨192, 0, 2, 2⟩, 50, none, .empty, none⟩,
        ⟨3, ⟨192, 0, 2, 3⟩, 50, none, .empty, none⟩]
    let lookup : Lookup := fun name =>
      if name = "1.2.0.192.a.example" ∨ name = "2.2.0.192.a.example" then
        .answer (.addresses [⟨127, 0, 0, 2⟩]) 10
      else if name = "3.2.0.192.a.example" then .answer (.noName none) 10
      else .silence
    let settings : Settings :=
      { Settings.standard with
        probing := { ProbeSettings.standard with
          zones := ["b.example", "a.example", "b.example"], networkCheck := true } }
    let tickets : TicketDesk Nat :=
      ⟨fun _ n => (.ok none, n), fun _ _ _ n => (.error (.transport "gone"), n + 1),
        fun _ _ n => (.ok (), n), fun _ _ n => (.ok "OPS-1", n + 1)⟩
    let c : Collaborators Unit Unit Nat Unit Unit :=
      ⟨⟨fun store => (.ok states, store), fun state _ _ store =>
          (if state.id = 2 then .error () else .ok true, store)⟩, tickets,
        ⟨fun _ reports => (.ok [], reports)⟩, fun _ _ => lookup, fun _ => .silence,
        fun _ => .silence⟩
    let r := c.run settings ⟨0, 0⟩ 0 () 0 ()
    ∃ o answers, r.outcome = .ok o ∧ o.stats = ⟨3, 2, 0, 1, 1, 0, 1, 1⟩ ∧
      c.replay settings r.trace ((), 0) = (answers, (), r.desk) ∧ o.stats.Tallies answers ∧
      answers.count .written = 1 := by
  intro states lookup settings tickets c r
  have hfetch : c.store.fetch () = (.ok states, ()) := rfl
  have hrun : r = _ := c.run_eq (List.cons_ne_nil _ _) hfetch ⟨0, 0⟩ 0 0 ()
  obtain ⟨o, ho⟩ : ∃ o, r.outcome = .ok o := by
    rw [hrun]
    exact ⟨_, rfl⟩
  have hcounts : r.outcome.toOption.map (·.stats) = some ⟨3, 2, 0, 1, 1, 0, 1, 1⟩ := by
    rw [hrun]
    decide +kernel
  rw [ho] at hcounts
  have hstats : o.stats = ⟨3, 2, 0, 1, 1, 0, 1, 1⟩ := Option.some.inj hcounts
  obtain ⟨fetched, store', answers, -, hreplay, -, -, -, -, -, -, hwritten, -, htallies, -⟩ :=
    c.run_accounts settings ⟨0, 0⟩ 0 () 0 () ho
  refine ⟨o, answers, ho, hstats, hreplay, htallies, ?_⟩
  rw [hwritten, hstats]
  rfl

end Collaborators

end BlocklistWatch
