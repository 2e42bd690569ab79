import BlocklistWatch.Monitor.Run
import BlocklistWatch.Proofs.Decision
import BlocklistWatch.Proofs.Probe.FanOut

/-!
# A run as one visit after another

The tracker of a run is started for the very zones that the run asks, so no address is ever refused,
and what the zones say about an address depends on the address and on what the look-ups reply then.
A run over all addresses is then a fold of single visits, each of which does one of four things.

* `decision` is what a run decides about an address, by the settings and the replies.
* `RunState.visit` deals with one address; `RunState.Visited` lists what that can change, and
  `RunState.visited` says that there is nothing else.
* `Collaborators.run_eq` is a whole run in these terms.
-/

namespace BlocklistWatch

variable {σ ε τ ρ φ : Type}

/-! ## The addresses that a run comes to -/

namespace Collaborators

variable (c : Collaborators σ ε τ ρ φ) (states : List IpState)

@[simp] theorem states_visits : (c.visits states).map (·.state) = states := by
  rw [visits, List.map_map]
  exact List.zipIdx_map_fst 0 states

theorem addresses_visits : (c.visits states).map (·.state.address) = states.map (·.address) := by
  conv_rhs => rw [← c.states_visits states, List.map_map]
  rfl

@[simp] theorem length_visits : (c.visits states).length = states.length := by
  rw [visits, List.length_map, List.length_zipIdx]

theorem visits_of_alike {lookup : String → Lookup} (halike : ∀ k, c.lookup k = lookup) :
    c.visits states = states.map fun state => ⟨state, lookup⟩ := by
  conv_rhs => rw [← List.zipIdx_map_fst 0 states, List.map_map]
  exact List.map_congr_left fun entry _ => congrArg (Visit.mk entry.1) (halike entry.2)

theorem visits_eq_nil_iff : c.visits states = [] ↔ states = [] := by
  rw [← List.length_eq_zero_iff, length_visits, List.length_eq_zero_iff]

end Collaborators

/-! ## What a run decides -/

/-- What the zones say about an address. -/
def seenAt (settings : Settings) (lookup : String → Lookup) (ip : Ipv4) : List Observation :=
  ((Text.sortNames settings.probing.zones).map
    ((RunState.prober settings lookup).finding ip)).map (·.observation)

def listedAt (settings : Settings) (lookup : String → Lookup) (ip : Ipv4) : ZoneSet :=
  Observation.listed (seenAt settings lookup ip)

/-- What a run decides about an address that it comes to. -/
def decision (settings : Settings) (v : Visit) : Option Transition :=
  v.state.decide (seenAt settings v.lookup v.state.address)

theorem mem_zones_of_mem_listedAt {settings : Settings} {lookup : String → Lookup} {ip : Ipv4}
    {zone : String} (h : zone ∈ listedAt settings lookup ip) : zone ∈ settings.probing.zones := by
  rw [listedAt, Observation.mem_zonesWith, seenAt, List.map_map, List.mem_map] at h
  obtain ⟨z, hz, heq⟩ := h
  have hzone : z = zone :=
    ((RunState.prober settings lookup).zone_finding ip z).symm.trans (congrArg Observation.zone heq)
  rw [← hzone]
  exact Text.mem_sortNames.1 hz

/-! ## Effects -/

namespace Effect

def tried? : Effect → Option IpState
  | .apply state _ _ => some state
  | _ => none

def refused? : Effect → Option IpState
  | .apply state _ false => some state
  | _ => none

def call? : Effect → Option TicketCall
  | .ticket call => some call
  | _ => none

def entry? : Effect → Option CheckEntry
  | .checked entry => some entry
  | _ => none

/-- The effects of dealing with a change: the store, the ticket system, the entry. -/
def ofChange (state : IpState) (t : Transition) (accepted : Bool) (calls : List TicketCall)
    (entry : CheckEntry) : List Effect :=
  .apply state t accepted :: calls.map .ticket ++ [.checked entry]

section Calls

variable (calls : List TicketCall)

theorem tried?_calls : (calls.map ticket).filterMap tried? = [] := by
  simp [List.filterMap_map, Function.comp_def, tried?]

theorem refused?_calls : (calls.map ticket).filterMap refused? = [] := by
  simp [List.filterMap_map, Function.comp_def, refused?]

theorem call?_calls : (calls.map ticket).filterMap call? = calls := by
  simp [List.filterMap_map, Function.comp_def, call?]

theorem entry?_calls : (calls.map ticket).filterMap entry? = [] := by
  simp [List.filterMap_map, Function.comp_def, entry?]

end Calls

section OfChange

variable (state : IpState) (t : Transition) (accepted : Bool) (calls : List TicketCall)
  (entry : CheckEntry)

theorem tried?_ofChange : (ofChange state t accepted calls entry).filterMap tried? = [state] := by
  simp [ofChange, List.filterMap_cons, List.filterMap_map, Function.comp_def, tried?]

theorem refused?_ofChange :
    (ofChange state t accepted calls entry).filterMap refused? =
      if accepted then [] else [state] := by
  cases accepted
  all_goals simp [ofChange, List.filterMap_cons, List.filterMap_map, Function.comp_def, refused?]

theorem entry?_ofChange : (ofChange state t accepted calls entry).filterMap entry? = [entry] := by
  simp [ofChange, List.filterMap_cons, List.filterMap_map, Function.comp_def, entry?]

end OfChange

end Effect

@[simp] theorem RunStats.storeFailures_countKind (s : RunStats) (kind : TransitionKind) :
    (s.countKind kind).storeFailures = s.storeFailures := by
  cases kind <;> rfl

@[simp] theorem TicketAction.total_count (a : TicketAction) (s : RunStats) :
    (a.count s).total = s.total := by
  cases a <;> rfl

@[simp] theorem TicketAction.unchanged_count (a : TicketAction) (s : RunStats) :
    (a.count s).unchanged = s.unchanged := by
  cases a <;> rfl

@[simp] theorem TicketAction.storeFailures_count (a : TicketAction) (s : RunStats) :
    (a.count s).storeFailures = s.storeFailures := by
  cases a <;> rfl

/-! ## What the ticket system is told -/

namespace TicketAction

/-- What was done about a ticket by the answer to opening an issue. -/
def ofOpening : Except TicketError String → TicketAction
  | .ok key => created key
  | .error _ => failed

def ofComment (key : String) : Except TicketError Unit → TicketAction
  | .ok () => updated key
  | .error _ => failed

end TicketAction

/-- The calls about a transition, by how the ticket system answers them: it is asked for the open
issue, and then at most one more thing, an issue to be opened or a comment on the one that is
open. -/
inductive Told (tickets : TicketDesk τ) (t : Transition) (desk : τ) :
    List TicketCall → TicketAction → τ → Prop
  | unanswered {e : TicketError} {desk' : τ} :
      tickets.find t.ip desk = (.error e, desk') → Told tickets t desk [.find t.ip] .failed desk'
  /-- The address is listed for the first time and has no open issue. -/
  | opened {desk₁ desk' : τ} {answer : Except TicketError String} :
      tickets.find t.ip desk = (.ok none, desk₁) → t.kind = .firstListing →
      tickets.create t.ip t.listedZones (listingDescription t) desk₁ = (answer, desk') →
      Told tickets t desk [.find t.ip, .create t.ip t.listedZones (listingDescription t)]
        (.ofOpening answer) desk'
  /-- The address is clean again or on other lists, and has an open issue. -/
  | commented {desk₁ desk' : τ} {issue : Issue} {body : String} {answer : Except TicketError Unit} :
      tickets.find t.ip desk = (.ok (some issue), desk₁) →
      (t.kind = .recovery ∧ body = recoveryComment t ∨
        t.kind = .zoneChange ∧ body = zoneChangeComment t) →
      tickets.comment issue.key body desk₁ = (answer, desk') →
      Told tickets t desk [.find t.ip, .comment issue.key body] (.ofComment issue.key answer) desk'
  /-- There is an issue for a first listing, or none for another change. -/
  | settled {desk' : τ} {found : Option Issue} :
      tickets.find t.ip desk = (.ok found, desk') → (found.isSome ↔ t.kind = .firstListing) →
      Told tickets t desk [.find t.ip] .none desk'

namespace RunState

variable {settings : Settings} {s s' : RunState σ τ}

@[simp] theorem trace_did (s : RunState σ τ) (e : Effect) : (s.did e).trace = s.trace ++ [e] :=
  List.reverse_cons

/-! ## Tickets -/

def called (s : RunState σ τ) (desk : τ) (calls : List TicketCall) : RunState σ τ :=
  { s with desk := desk, effects := (calls.map Effect.ticket).reverse ++ s.effects }

@[simp] theorem trace_called (s : RunState σ τ) (desk : τ) (calls : List TicketCall) :
    (s.called desk calls).trace = s.trace ++ calls.map Effect.ticket := by
  simp [trace, called]

theorem openIssue_frame (tickets : TicketDesk τ) (t : Transition) (s : RunState σ τ) :
    ∃ answer desk, tickets.create t.ip t.listedZones (listingDescription t) s.desk =
        (answer, desk) ∧
      openIssue tickets t s = (.ofOpening answer,
        s.called desk [.create t.ip t.listedZones (listingDescription t)]) := by
  rcases hcreate : tickets.create t.ip t.listedZones (listingDescription t) s.desk with
    ⟨e | key, desk⟩
  · exact ⟨_, _, rfl, by simp only [openIssue, hcreate]; rfl⟩
  · exact ⟨_, _, rfl, by simp only [openIssue, hcreate]; rfl⟩

theorem commentOn_frame (tickets : TicketDesk τ) (key body : String) (s : RunState σ τ) :
    ∃ answer desk, tickets.comment key body s.desk = (answer, desk) ∧
      commentOn tickets key body s =
        (.ofComment key answer, s.called desk [.comment key body]) := by
  rcases hcomment : tickets.comment key body s.desk with ⟨e | _, desk⟩
  · exact ⟨_, _, rfl, by simp only [commentOn, hcomment]; rfl⟩
  · exact ⟨_, _, rfl, by simp only [commentOn, hcomment]; rfl⟩

/-- Telling the ticket system changes nothing but what it remembers. -/
theorem tell_frame (tickets : TicketDesk τ) (t : Transition) (s : RunState σ τ) :
    ∃ action desk calls, tell tickets t s = (action, s.called desk calls) ∧
      Told tickets t s.desk calls action desk := by
  unfold tell findIssue
  rcases hfind : tickets.find t.ip s.desk with ⟨e | found, desk⟩
  · exact ⟨_, desk, _, rfl, .unanswered hfind⟩
  · have hasked : s.called desk [.find t.ip] =
        { s with desk := desk }.did (.ticket (.find t.ip)) := rfl
    simp only [← hasked]
    cases found with
    | none =>
      cases hkind : t.kind with
      | firstListing =>
        obtain ⟨answer, desk', hcreate, h⟩ :=
          openIssue_frame tickets t (s.called desk [.find t.ip])
        exact ⟨_, desk', [_, _], h, .opened hfind hkind hcreate⟩
      | recovery => exact ⟨_, desk, _, rfl, .settled hfind (by simp [hkind])⟩
      | zoneChange => exact ⟨_, desk, _, rfl, .settled hfind (by simp [hkind])⟩
    | some issue =>
      cases hkind : t.kind with
      | firstListing => exact ⟨_, desk, _, rfl, .settled hfind (by simp [hkind])⟩
      | recovery =>
        obtain ⟨answer, desk', hcomment, h⟩ :=
          commentOn_frame tickets issue.key (recoveryComment t) (s.called desk [.find t.ip])
        exact ⟨_, desk', [_, _], h, .commented hfind (.inl ⟨hkind, rfl⟩) hcomment⟩
      | zoneChange =>
        obtain ⟨answer, desk', hcomment, h⟩ :=
          commentOn_frame tickets issue.key (zoneChangeComment t) (s.called desk [.find t.ip])
        exact ⟨_, desk', [_, _], h, .commented hfind (.inr ⟨hkind, rfl⟩) hcomment⟩

theorem trace_change (s : RunState σ τ) (state : IpState) (t : Transition) (accepted : Bool)
    (desk : τ) (calls : List TicketCall) (stats : RunStats) (entry : CheckEntry) :
    ({ (s.did (.apply state t accepted)).called desk calls with
      stats := stats }.did (.checked entry)).trace =
        s.trace ++ Effect.ofChange state t accepted calls entry := by
  simp [did, called, trace, Effect.ofChange]

/-! ## One address -/

def probed (settings : Settings) (v : Visit) (s : RunState σ τ) : RunState σ τ :=
  { s with
    tracker := s.tracker.start.notedAt
      (fun zone => (Text.sortNames settings.probing.zones).contains zone)
      ((prober settings v.lookup).verdict v.state.address)
    stats := { s.stats with total := s.stats.total + 1 }
    elapsed := s.elapsed + (checkAddress (prober settings v.lookup) (some s.tracker.start)
      v.state.address settings.probing.zones settings.probing.concurrency).elapsed }

def visit (c : Collaborators σ ε τ ρ φ) (settings : Settings) (s : RunState σ τ)
    (v : Visit) : RunState σ τ :=
  decideOn c.store c.tickets settings v.state
    ((Text.sortNames settings.probing.zones).map
      ((prober settings v.lookup).finding v.state.address))
    (s.probed settings v)

def Tracks (settings : Settings) (s : RunState σ τ) : Prop :=
  s.tracker.zones = Text.sortNames settings.probing.zones

theorem Tracks.nodup_start (h : Tracks settings s) :
    ∀ t ∈ some s.tracker.start, t.zones.Nodup := by
  intro t ht
  rw [← Option.some.inj ht, HealthTracker.zones_start, h]
  exact Text.nodup_sortNames _

theorem Tracks.knows_start (h : Tracks settings s) :
    ∀ zone ∈ settings.probing.zones, knows (some s.tracker.start) zone = true := by
  intro zone hzone
  have hmem : zone ∈ s.tracker.start.zones := by
    rw [HealthTracker.zones_start, h]
    exact Text.mem_sortNames.2 hzone
  exact List.contains_iff_mem.2 hmem

theorem checkOne_eq (c : Collaborators σ ε τ ρ φ) (v : Visit)
    (hzones : settings.probing.zones ≠ []) (htracks : Tracks settings s) :
    checkOne c settings v s = (.ok (), visit c settings s v) := by
  obtain ⟨hfindings, htracker⟩ := checkAddress_of_knows (prober settings v.lookup) v.state.address
    settings.probing.concurrency hzones htracks.nodup_start htracks.knows_start
  unfold checkOne
  simp only [hfindings, htracker, Option.map_some, Option.getD_some]
  rfl

/-- Everything that a visit can do. -/
inductive Visited (c : Collaborators σ ε τ ρ φ) (settings : Settings) (v : Visit)
    (s s' : RunState σ τ) : Prop
  /-- There was nothing to change. -/
  | unchanged {entry : CheckEntry} :
      decision settings v = none →
      entry.ip = v.state.address → entry.kind = none →
      s'.store = s.store → s'.desk = s.desk →
      s'.stats =
        { s.stats with total := s.stats.total + 1, unchanged := s.stats.unchanged + 1 } →
      s'.trace = s.trace ++ [.checked entry] → entry.action = .none →
      Visited c settings v s s'
  /-- A change was only logged. -/
  | logged {t : Transition} {entry : CheckEntry} :
      settings.dryRun = true → decision settings v = some t →
      entry.ip = v.state.address → entry.kind = some t.kind →
      s'.store = s.store → s'.desk = s.desk →
      s'.stats = { s.stats with total := s.stats.total + 1 }.countKind t.kind →
      s'.trace = s.trace ++ [.checked entry] → entry.action = .dryRun →
      Visited c settings v s s'
  /-- The store could not write a change. -/
  | refused {t : Transition} {e : ε} {counted : RunStats} {entry : CheckEntry} :
      settings.dryRun = false → decision settings v = some t →
      entry.ip = v.state.address → entry.kind = some t.kind →
      c.store.apply v.state t settings.priority s.store = (.error e, s'.store) → s'.desk = s.desk →
      counted = { s.stats with total := s.stats.total + 1 }.countKind t.kind →
      s'.stats = { counted with storeFailures := counted.storeFailures + 1 } →
      s'.trace = s.trace ++ Effect.ofChange v.state t false [] entry → entry.action = .none →
      Visited c settings v s s'
  /-- The store took a change, and the ticket system was told. -/
  | accepted {t : Transition} {written : Bool} {action : TicketAction} {calls : List TicketCall}
      {entry : CheckEntry} :
      settings.dryRun = false → decision settings v = some t →
      entry.ip = v.state.address → entry.kind = some t.kind →
      c.store.apply v.state t settings.priority s.store = (.ok written, s'.store) →
      Told c.tickets t s.desk calls action s'.desk →
      s'.stats = action.count ({ s.stats with total := s.stats.total + 1 }.countKind t.kind) →
      s'.trace = s.trace ++ Effect.ofChange v.state t true calls entry → entry.action = action →
      Visited c settings v s s'

theorem visited (c : Collaborators σ ε τ ρ φ) (settings : Settings) (s : RunState σ τ)
    (v : Visit) :
    Visited c settings v s (visit c settings s v) ∧
      (visit c settings s v).tracker = (s.probed settings v).tracker := by
  have hseen : ∀ ip, ((Text.sortNames settings.probing.zones).map
      ((prober settings v.lookup).finding ip)).map (·.observation) =
        seenAt settings v.lookup ip := fun _ => rfl
  unfold visit decideOn
  simp only [hseen]
  cases hdecision : decision settings v with
  | none =>
    have hstate : v.state.decide (seenAt settings v.lookup v.state.address) = none := hdecision
    simp only [hstate]
    exact ⟨.unchanged hdecision rfl rfl rfl rfl rfl (trace_did _ _) rfl, rfl⟩
  | some t =>
    have hstate : v.state.decide (seenAt settings v.lookup v.state.address) = some t := hdecision
    simp only [hstate]
    unfold carryOut
    by_cases hdry : settings.dryRun = true
    · simp only [hdry, if_true]
      exact ⟨.logged hdry hdecision rfl rfl rfl rfl rfl (trace_did _ _) rfl, rfl⟩
    · rw [Bool.not_eq_true] at hdry
      simp only [hdry, Bool.false_eq_true, if_false]
      rcases hanswer : c.store.apply v.state t settings.priority s.store with ⟨e | written, stored⟩
      · have hprobed : c.store.apply v.state t settings.priority
            (s.probed settings v).store = (.error e, stored) := hanswer
        simp only [hprobed]
        refine ⟨.refused hdry hdecision rfl rfl hanswer rfl rfl rfl (trace_change _ _ _ _ _ [] _ _) rfl,
          rfl⟩
      · have hprobed : c.store.apply v.state t settings.priority
            (s.probed settings v).store = (.ok written, stored) := hanswer
        simp only [hprobed, tellAndCount]
        obtain ⟨action, desk, calls, htell, htold⟩ := tell_frame c.tickets t
          (({ s.probed settings v with
            store := stored
            stats := (s.probed settings v).stats.countKind t.kind }
              : RunState σ τ).did (.apply v.state t true))
        rw [htell]
        refine ⟨.accepted hdry hdecision rfl rfl hanswer htold rfl (trace_change _ _ _ _ _ _ _ _) rfl,
          rfl⟩

theorem tracks_visit {c : Collaborators σ ε τ ρ φ} (h : Tracks settings s) (v : Visit) :
    Tracks settings (visit c settings s v) := by
  rw [Tracks, (visited c settings s v).2]
  exact HealthTracker.zones_notedAt.trans h

/-! ## All addresses -/

theorem checkAll_eq (c : Collaborators σ ε τ ρ φ) (hzones : settings.probing.zones ≠ [])
    (htracks : Tracks settings s) (vs : List Visit) :
    checkAll c settings vs s = (.ok (), vs.foldl (visit c settings) s) := by
  induction vs generalizing s with
  | nil => rfl
  | cons v vs ih =>
    rw [checkAll, checkOne_eq c v hzones htracks]
    exact ih (tracks_visit htracks v)

def start (settings : Settings) (store : σ) (desk : τ) : RunState σ τ :=
  ⟨store, desk, ⟨(Text.sortNames settings.probing.zones).map ZoneRecord.fresh, 0⟩, .zero, [], 0⟩

theorem tracks_start (settings : Settings) (store : σ) (desk : τ) :
    Tracks settings (start settings store desk) := by
  simp [Tracks, start, HealthTracker.zones, Function.comp_def]

section Runs

variable {c : Collaborators σ ε τ ρ φ}

theorem entries_visit (v : Visit) :
    ((visit c settings s v).trace.filterMap Effect.entry?).map (fun e => (e.ip, e.kind)) =
      (s.trace.filterMap Effect.entry?).map (fun e => (e.ip, e.kind)) ++
        [(v.state.address, (decision settings v).map (·.kind))] := by
  cases (visited c settings s v).1 with
  | unchanged hnone hip hkind _ _ _ htrace =>
    simp [htrace, List.filterMap_append, Effect.entry?, hnone, hip, hkind]
  | logged _ hsome hip hkind _ _ _ htrace =>
    simp [htrace, List.filterMap_append, Effect.entry?, hsome, hip, hkind]
  | refused _ hsome hip hkind _ _ _ _ htrace =>
    simp [htrace, List.filterMap_append, Effect.entry?_ofChange, hsome, hip, hkind]
  | accepted _ hsome hip hkind _ _ _ htrace =>
    simp [htrace, List.filterMap_append, Effect.entry?_ofChange, hsome, hip, hkind]

theorem tried_visit (hdry : settings.dryRun = false) (v : Visit) :
    (visit c settings s v).trace.filterMap Effect.tried? =
      s.trace.filterMap Effect.tried? ++
        if (decision settings v).isSome then [v.state] else [] := by
  cases (visited c settings s v).1 with
  | unchanged hnone _ _ _ _ _ htrace => simp [htrace, List.filterMap_append, Effect.tried?, hnone]
  | logged hdry' _ _ _ _ _ _ _ => exact absurd (hdry.symm.trans hdry') (by simp)
  | refused _ hsome _ _ _ _ _ _ htrace =>
    simp [htrace, List.filterMap_append, Effect.tried?_ofChange, hsome]
  | accepted _ hsome _ _ _ _ _ htrace =>
    simp [htrace, List.filterMap_append, Effect.tried?_ofChange, hsome]

theorem refused_visit (v : Visit)
    (h : s.stats.storeFailures = (s.trace.filterMap Effect.refused?).length) :
    (visit c settings s v).stats.storeFailures =
      ((visit c settings s v).trace.filterMap Effect.refused?).length := by
  cases (visited c settings s v).1 with
  | unchanged _ _ _ _ _ hstats htrace =>
    simp [hstats, htrace, List.filterMap_append, Effect.refused?, h]
  | logged _ _ _ _ _ _ hstats htrace =>
    simp [hstats, htrace, List.filterMap_append, Effect.refused?, h]
  | refused _ _ _ _ _ _ hcounted hstats htrace =>
    simp [hcounted, hstats, htrace, List.filterMap_append, Effect.refused?_ofChange, h]
  | accepted _ _ _ _ _ _ hstats htrace =>
    simp [hstats, htrace, List.filterMap_append, Effect.refused?_ofChange, h]

theorem entries_foldl_visit (c : Collaborators σ ε τ ρ φ) (settings : Settings)
    (vs : List Visit) (s : RunState σ τ) :
    ((vs.foldl (visit c settings) s).trace.filterMap Effect.entry?).map
        (fun e => (e.ip, e.kind)) =
      (s.trace.filterMap Effect.entry?).map (fun e => (e.ip, e.kind)) ++
        vs.map fun v => (v.state.address, (decision settings v).map (·.kind)) := by
  induction vs generalizing s with
  | nil => simp
  | cons v vs ih => rw [List.foldl_cons, ih, entries_visit, List.append_assoc]; rfl

theorem tried_foldl_visit (hdry : settings.dryRun = false) (vs : List Visit)
    (s : RunState σ τ) :
    (vs.foldl (visit c settings) s).trace.filterMap Effect.tried? =
      s.trace.filterMap Effect.tried? ++
        (vs.filter fun v => (decision settings v).isSome).map (·.state) := by
  induction vs generalizing s with
  | nil => simp
  | cons v vs ih =>
    rw [List.foldl_cons, ih, tried_visit hdry, List.append_assoc, List.filter_cons]
    by_cases hsome : (decision settings v).isSome = true
    · rw [if_pos hsome, if_pos hsome, List.singleton_append, List.map_cons]
    · rw [if_neg hsome, if_neg hsome, List.nil_append]

theorem refused_foldl_visit (vs : List Visit)
    (h : s.stats.storeFailures = (s.trace.filterMap Effect.refused?).length) :
    (vs.foldl (visit c settings) s).stats.storeFailures =
      ((vs.foldl (visit c settings) s).trace.filterMap Effect.refused?).length := by
  induction vs generalizing s with
  | nil => exact h
  | cons v vs ih => exact ih (refused_visit v h)

theorem foldl_visit_of_unchanged {vs : List Visit}
    (hnone : ∀ v ∈ vs, decision settings v = none) (s : RunState σ τ) :
    let s' := vs.foldl (visit c settings) s
    s'.store = s.store ∧ s'.desk = s.desk ∧
      s'.trace.filterMap Effect.call? = s.trace.filterMap Effect.call? ∧
      s'.stats = { s.stats with
        total := s.stats.total + vs.length
        unchanged := s.stats.unchanged + vs.length } := by
  induction vs generalizing s with
  | nil => exact ⟨rfl, rfl, rfl, rfl⟩
  | cons v vs ih =>
    obtain ⟨hstore, hdesk, hcalls, hstats⟩ :=
      ih (fun u hu => hnone u (List.mem_cons_of_mem _ hu)) (visit c settings s v)
    have hhere := hnone v (List.mem_cons_self ..)
    cases (visited c settings s v).1 with
    | unchanged _ _ _ hstore' hdesk' hstats' htrace =>
      refine ⟨hstore.trans hstore', hdesk.trans hdesk', hcalls.trans ?_, hstats.trans ?_⟩
      · simp [htrace, List.filterMap_append, Effect.call?]
      · rw [hstats', List.length_cons]
        simp only [RunStats.mk.injEq, true_and, and_true]
        omega
    | logged _ hsome _ _ _ _ _ _ => exact absurd (hhere.symm.trans hsome) (by simp)
    | refused _ hsome _ _ _ _ _ _ _ => exact absurd (hhere.symm.trans hsome) (by simp)
    | accepted _ hsome _ _ _ _ _ _ => exact absurd (hhere.symm.trans hsome) (by simp)

end Runs

/-- What the ticket system is asked when stock is taken. -/
def outageCalls (settings : Settings) (summary : HealthSummary) : List TicketCall :=
  if summary.issueDetected && !settings.dryRun then
    [.outage summary.brokenFraction summary.brokenZoneNames]
  else []

theorem outageCalls_cases (settings : Settings) (summary : HealthSummary) :
    outageCalls settings summary = [] ∨
      ∃ fraction zones, outageCalls settings summary = [.outage fraction zones] := by
  unfold outageCalls
  by_cases hasked : (summary.issueDetected && !settings.dryRun) = true
  · rw [if_pos hasked]
    exact .inr ⟨_, _, rfl⟩
  · rw [if_neg hasked]
    exact .inl rfl

theorem outageCalls_of_dryRun (hdry : settings.dryRun = true) (summary : HealthSummary) :
    outageCalls settings summary = [] := by
  simp [outageCalls, hdry]

theorem reportOutage_frame (tickets : TicketDesk τ) (settings : Settings)
    (summary : HealthSummary) (s : RunState σ τ) :
    ∃ (action : TicketAction) (desk : τ),
      (if summary.issueDetected then reportOutage tickets settings summary s else s) =
        { s.called desk (outageCalls settings summary) with stats := action.count s.stats } := by
  unfold outageCalls reportOutage
  cases summary.issueDetected with
  | false => exact ⟨.none, s.desk, rfl⟩
  | true =>
    cases settings.dryRun with
    | true => exact ⟨.none, s.desk, rfl⟩
    | false => exact ⟨_, _, rfl⟩

end RunState

/-! ## Whole runs -/

namespace Collaborators

open RunState

variable {settings : Settings}

theorem run_eq (c : Collaborators σ ε τ ρ φ) (hzones : settings.probing.zones ≠ [])
    {store store' : σ} {states : List IpState} (hfetch : c.store.fetch store = (.ok states, store'))
    (moment : Moment) (durationMs : Nat) (desk : τ) (reports : ρ) :
    c.run settings moment durationMs store desk reports =
      c.finish settings moment durationMs
        ((c.visits states).foldl (visit c settings) (RunState.start settings store' desk))
        reports := by
  have hbuilt : HealthTracker.ofZones settings.probing.zones =
      .ok (RunState.start settings store' desk : RunState σ τ).tracker := by
    rw [HealthTracker.ofZones, if_neg (by simpa using hzones)]
    rfl
  have hall := checkAll_eq c hzones (tracks_start settings store' desk) (c.visits states)
  unfold run
  rw [hfetch]
  simp only [hbuilt]
  rw [show (⟨store', desk, (RunState.start settings store' desk : RunState σ τ).tracker, .zero, [],
    0⟩ : RunState σ τ) = RunState.start settings store' desk from rfl, hall]

/-- The end of a run may report an outage; it does nothing else, and it can fail only to hand over
the reports. -/
theorem finish_frame (c : Collaborators σ ε τ ρ φ) (settings : Settings) (moment : Moment)
    (durationMs : Nat) (s : RunState σ τ) (reports : ρ) :
    let r := c.finish settings moment durationMs s reports
    let summary := s.tracker.summarize (some (c.askOutside settings).1) moment durationMs
    r.store = s.store ∧ r.trace = s.trace ++ (outageCalls settings summary).map Effect.ticket ∧
      (∀ o, r.outcome = .ok o →
        o.summary = summary ∧ ∃ action : TicketAction, o.stats = action.count s.stats) ∧
      ∀ e, r.outcome = .error e → ∃ failure, e = .report failure := by
  intro r summary
  obtain ⟨action, desk, hstate⟩ := reportOutage_frame c.tickets settings summary
    { s with elapsed := s.elapsed + (c.askOutside settings).2 }
  have hr : r = c.finish settings moment durationMs s reports := rfl
  unfold finish at hr
  simp only [summary] at hstate
  simp only [hstate] at hr
  rw [hr]
  refine ⟨rfl, trace_called s desk _, fun o ho => ?_, fun e he => ?_⟩
  · simp only at ho
    split at ho
    · rw [← Except.ok.inj ho]
      exact ⟨rfl, action, rfl⟩
    · exact absurd ho (by simp)
  · simp only at he
    split at he
    · exact absurd he (by simp)
    · exact ⟨_, (Except.error.inj he).symm⟩

section WholeRuns

variable (c : Collaborators σ ε τ ρ φ) (hzones : settings.probing.zones ≠ []) {store store' : σ}
  {states : List IpState} (hfetch : c.store.fetch store = (.ok states, store')) (moment : Moment)
  (durationMs : Nat) (desk : τ) (reports : ρ)

include hzones hfetch

theorem run_frame :
    let r := c.run settings moment durationMs store desk reports
    let s := (c.visits states).foldl (visit c settings) (RunState.start settings store' desk)
    let summary := s.tracker.summarize (some (c.askOutside settings).1) moment durationMs
    r.store = s.store ∧ r.trace = s.trace ++ (outageCalls settings summary).map Effect.ticket ∧
      (∀ o, r.outcome = .ok o →
        o.summary = summary ∧ ∃ action : TicketAction, o.stats = action.count s.stats) ∧
      ∀ e, r.outcome = .error e → ∃ failure, e = .report failure := by
  rw [c.run_eq hzones hfetch]
  exact c.finish_frame settings moment durationMs _ reports

theorem run_tried (hdry : settings.dryRun = false) :
    (c.run settings moment durationMs store desk reports).trace.filterMap Effect.tried? =
      ((c.visits states).filter fun v => (decision settings v).isSome).map (·.state) := by
  obtain ⟨-, htrace, -⟩ := c.run_frame hzones hfetch moment durationMs desk reports
  rw [htrace, List.filterMap_append, Effect.tried?_calls, List.append_nil,
    tried_foldl_visit hdry (c.visits states)]
  rfl

theorem run_entries :
    ((c.run settings moment durationMs store desk reports).trace.filterMap Effect.entry?).map
        (fun e => (e.ip, e.kind)) =
      (c.visits states).map fun v =>
        (v.state.address, (decision settings v).map (·.kind)) := by
  obtain ⟨-, htrace, -⟩ := c.run_frame hzones hfetch moment durationMs desk reports
  rw [htrace, List.filterMap_append, Effect.entry?_calls, List.append_nil,
    entries_foldl_visit c settings (c.visits states)]
  rfl

theorem run_refused {o : RunOutcome}
    (ho : (c.run settings moment durationMs store desk reports).outcome = .ok o) :
    o.stats.storeFailures = ((c.run settings moment durationMs store desk
      reports).trace.filterMap Effect.refused?).length := by
  obtain ⟨-, htrace, hstats, -⟩ := c.run_frame hzones hfetch moment durationMs desk reports
  obtain ⟨-, action, haction⟩ := hstats o ho
  rw [htrace, List.filterMap_append, Effect.refused?_calls, List.append_nil, haction,
    TicketAction.storeFailures_count]
  exact refused_foldl_visit (c.visits states) rfl

/-- Where nothing is decided a run changes nothing, and of the ticket system it asks at most to open
an issue about an outage. -/
theorem run_of_unchanged
    (hnone : ∀ v ∈ c.visits states, decision settings v = none) :
    let r := c.run settings moment durationMs store desk reports
    r.store = store' ∧
      (r.trace.filterMap Effect.call? = [] ∨
        ∃ fraction zones, r.trace.filterMap Effect.call? = [.outage fraction zones]) ∧
      ∀ o, r.outcome = .ok o →
        o.stats.total = states.length ∧ o.stats.unchanged = o.stats.total := by
  intro r
  obtain ⟨hstore, htrace, hstats, -⟩ :=
    c.run_frame hzones hfetch moment durationMs desk reports
  obtain ⟨hkept, -, hsilent, hcounts⟩ :=
    foldl_visit_of_unchanged hnone (RunState.start settings store' desk)
  have hcalled := congrArg (List.filterMap Effect.call?) htrace
  rw [List.filterMap_append, Effect.call?_calls, hsilent] at hcalled
  refine ⟨hstore.trans hkept, ?_, fun o ho => ?_⟩
  · rw [hcalled]
    exact outageCalls_cases settings _
  obtain ⟨-, action, haction⟩ := hstats o ho
  have htotal : o.stats.total = states.length := by
    rw [haction, TicketAction.total_count, hcounts, ← c.length_visits states]
    exact Nat.zero_add _
  have hunchanged : o.stats.unchanged = states.length := by
    rw [haction, TicketAction.unchanged_count, hcounts, ← c.length_visits states]
    exact Nat.zero_add _
  exact ⟨htotal, hunchanged.trans htotal.symm⟩

end WholeRuns

end Collaborators

end BlocklistWatch
