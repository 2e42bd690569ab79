import BlocklistWatch.Proofs.Monitor.Visit

/-!
# The order of what a run does

Everything outside may fail at any call, and a run goes on. The trace of a run is that of its
addresses one after another: of each address a change is handed to the store, and only if the store
took it is the ticket system told. In the end there may be a report of an outage.

* `Handled` lists the traces of one address, by how the store and the ticket system answer;
  `HandledAll` those of one address after another.
* `RunState.handled_visit` and `RunState.handledAll_foldl_visit` say that a run keeps to them.
* `StoreDesk.carried` is what the store is asked for the addresses, with no ticket system in sight.
* `Collaborators.run_in_order` is the whole run.
-/

namespace BlocklistWatch

variable {σ ε τ ρ φ : Type}

/-! ## Traces -/

/-- The trace of an address, from one state of the store and of the ticket system to the next. -/
inductive Handled (c : Collaborators σ ε τ ρ φ) (settings : Settings) (v : Visit) :
    σ × τ → List Effect → σ × τ → Prop
  /-- There is nothing to change. -/
  | unchanged {w : σ × τ} {entry : CheckEntry} :
      decision settings v = none → entry.ip = v.state.address → entry.kind = none →
      Handled c settings v w [.checked entry] w
  /-- There is a change, which a dry run only logs. -/
  | logged {w : σ × τ} {t : Transition} {entry : CheckEntry} :
      settings.dryRun = true → decision settings v = some t →
      entry.ip = v.state.address → entry.kind = some t.kind →
      Handled c settings v w [.checked entry] w
  /-- The store cannot write the change. -/
  | refused {store store' : σ} {desk : τ} {t : Transition} {e : ε} {entry : CheckEntry} :
      settings.dryRun = false → decision settings v = some t →
      entry.ip = v.state.address → entry.kind = some t.kind →
      c.store.apply v.state t settings.priority store = (.error e, store') →
      Handled c settings v (store, desk) (Effect.ofChange v.state t false [] entry) (store', desk)
  /-- The store takes the change, and the ticket system is told. -/
  | accepted {store store' : σ} {desk desk' : τ} {t : Transition} {written : Bool}
      {calls : List TicketCall} {action : TicketAction} {entry : CheckEntry} :
      settings.dryRun = false → decision settings v = some t →
      entry.ip = v.state.address → entry.kind = some t.kind →
      c.store.apply v.state t settings.priority store = (.ok written, store') →
      Told c.tickets t desk calls action desk' →
      Handled c settings v (store, desk) (Effect.ofChange v.state t true calls entry)
        (store', desk')

/-- The trace of one address after another. -/
inductive HandledAll (c : Collaborators σ ε τ ρ φ) (settings : Settings) :
    List Visit → σ × τ → List Effect → σ × τ → Prop
  | nil {w : σ × τ} : HandledAll c settings [] w [] w
  | cons {v : Visit} {vs : List Visit} {w w₁ w₂ : σ × τ} {first more : List Effect} :
      Handled c settings v w first w₁ → HandledAll c settings vs w₁ more w₂ →
      HandledAll c settings (v :: vs) w (first ++ more) w₂

variable {c : Collaborators σ ε τ ρ φ} {settings : Settings}

namespace RunState

variable (c settings)

theorem handled_visit (s : RunState σ τ) (v : Visit) :
    ∃ effects, (visit c settings s v).trace = s.trace ++ effects ∧
      Handled c settings v (s.store, s.desk) effects
        ((visit c settings s v).store, (visit c settings s v).desk) := by
  cases (visited c settings s v).1 with
  | unchanged hnone hip hkind hstore hdesk _ htrace =>
    refine ⟨_, htrace, ?_⟩
    rw [hstore, hdesk]
    exact .unchanged hnone hip hkind
  | logged hdry hsome hip hkind hstore hdesk _ htrace =>
    refine ⟨_, htrace, ?_⟩
    rw [hstore, hdesk]
    exact .logged hdry hsome hip hkind
  | refused hdry hsome hip hkind happly hdesk _ _ htrace =>
    refine ⟨_, htrace, ?_⟩
    rw [hdesk]
    exact .refused hdry hsome hip hkind happly
  | accepted hdry hsome hip hkind happly htold _ htrace =>
    exact ⟨_, htrace, .accepted hdry hsome hip hkind happly htold⟩

theorem handledAll_foldl_visit (vs : List Visit) (s : RunState σ τ) :
    ∃ effects, (vs.foldl (visit c settings) s).trace = s.trace ++ effects ∧
      HandledAll c settings vs (s.store, s.desk) effects
        ((vs.foldl (visit c settings) s).store,
          (vs.foldl (visit c settings) s).desk) := by
  induction vs generalizing s with
  | nil => exact ⟨[], (List.append_nil _).symm, .nil⟩
  | cons v vs ih =>
    obtain ⟨first, hfirst, hhandled⟩ := handled_visit c settings s v
    obtain ⟨more, hmore, hall⟩ := ih (visit c settings s v)
    refine ⟨first ++ more, ?_, .cons hhandled hall⟩
    rw [List.foldl_cons, hmore, hfirst, List.append_assoc]

end RunState

/-! ## What the store is asked -/

/-- A transition that was handed to the store, with the state that it was decided for and whether
the store took it. -/
def Effect.applied? : Effect → Option (IpState × Transition × Bool)
  | .apply state t accepted => some (state, t, accepted)
  | _ => none

theorem Effect.applied?_calls (calls : List TicketCall) :
    (calls.map Effect.ticket).filterMap applied? = [] := by
  simp [List.filterMap_map, Function.comp_def, applied?]

theorem Effect.applied?_ofChange (state : IpState) (t : Transition) (accepted : Bool)
    (calls : List TicketCall) (entry : CheckEntry) :
    (ofChange state t accepted calls entry).filterMap applied? = [(state, t, accepted)] := by
  simp [ofChange, List.filterMap_cons, List.filterMap_map, Function.comp_def, applied?]

namespace StoreDesk

/-- What the store is asked about an address, and what becomes of it. -/
def carriedOne (desk : StoreDesk σ ε) (settings : Settings) (v : Visit) (store : σ) :
    List (IpState × Transition × Bool) × σ :=
  match decision settings v with
  | none => ([], store)
  | some t =>
    if settings.dryRun then ([], store)
    else
      match desk.apply v.state t settings.priority store with
      | (.ok _, store) => ([(v.state, t, true)], store)
      | (.error _, store) => ([(v.state, t, false)], store)

def carried (desk : StoreDesk σ ε) (settings : Settings) :
    List Visit → σ → List (IpState × Transition × Bool) × σ
  | [], store => ([], store)
  | v :: vs, store =>
    let (first, store) := desk.carriedOne settings v store
    let (more, store) := desk.carried settings vs store
    (first ++ more, store)

end StoreDesk

theorem Handled.carriedOne {v : Visit} {w w' : σ × τ} {effects : List Effect}
    (h : Handled c settings v w effects w') :
    c.store.carriedOne settings v w.1 =
      (effects.filterMap Effect.applied?, w'.1) := by
  unfold StoreDesk.carriedOne
  cases h with
  | unchanged hnone _ _ =>
    rw [hnone]
    rfl
  | logged hdry hsome _ _ =>
    rw [hsome]
    simp only [hdry, if_true]
    rfl
  | refused hdry hsome _ _ happly =>
    rw [hsome]
    simp only [hdry, Bool.false_eq_true, if_false, happly, Effect.applied?_ofChange]
  | accepted hdry hsome _ _ happly _ =>
    rw [hsome]
    simp only [hdry, Bool.false_eq_true, if_false, happly, Effect.applied?_ofChange]

/-- Whatever the ticket system answered, the store was asked what its own answers lead to. -/
theorem HandledAll.carried {vs : List Visit} {w w' : σ × τ} {effects : List Effect}
    (h : HandledAll c settings vs w effects w') :
    c.store.carried settings vs w.1 =
      (effects.filterMap Effect.applied?, w'.1) := by
  induction h with
  | nil => rfl
  | cons hfirst _ ih =>
    simp only [StoreDesk.carried, hfirst.carriedOne, ih, List.filterMap_append]

/-! ## Addresses and calls in a trace -/

theorem Handled.addresses {v : Visit} {w w' : σ × τ} {effects : List Effect}
    (h : Handled c settings v w effects w') :
    (effects.filterMap Effect.entry?).map (·.ip) = [v.state.address] := by
  cases h with
  | unchanged _ hip _ => simp [Effect.entry?, hip]
  | logged _ _ hip _ => simp [Effect.entry?, hip]
  | refused _ _ hip _ _ => simp [Effect.entry?_ofChange, hip]
  | accepted _ _ hip _ _ _ => simp [Effect.entry?_ofChange, hip]

theorem HandledAll.addresses {vs : List Visit} {w w' : σ × τ} {effects : List Effect}
    (h : HandledAll c settings vs w effects w') :
    (effects.filterMap Effect.entry?).map (·.ip) = vs.map (·.state.address) := by
  induction h with
  | nil => rfl
  | cons hfirst _ ih =>
    rw [List.filterMap_append, List.map_append, hfirst.addresses, ih, List.map_cons,
      List.singleton_append]

/-- A dry run logs what it sees and calls nobody. -/
theorem HandledAll.of_dryRun (hdry : settings.dryRun = true) {vs : List Visit}
    {w w' : σ × τ} {effects : List Effect} (h : HandledAll c settings vs w effects w') :
    ∀ effect ∈ effects, ∃ entry, effect = .checked entry := by
  induction h with
  | nil => exact fun _ h => absurd h List.not_mem_nil
  | cons hfirst _ ih =>
    intro effect heffect
    rcases List.mem_append.1 heffect with hmem | hmem
    · cases hfirst with
      | unchanged => exact ⟨_, List.mem_singleton.1 hmem⟩
      | logged => exact ⟨_, List.mem_singleton.1 hmem⟩
      | refused hwet => exact absurd (hdry.symm.trans hwet) (by simp)
      | accepted hwet => exact absurd (hdry.symm.trans hwet) (by simp)
    · exact ih effect hmem

/-! ## Whole runs -/

namespace Collaborators

open RunState

/-- The collaborators with another ticket system. -/
def withTickets {τ' : Type} (c : Collaborators σ ε τ ρ φ) (tickets : TicketDesk τ') :
    Collaborators σ ε τ' ρ φ :=
  ⟨c.store, tickets, c.reports, c.lookup, c.cloudflare, c.google⟩

theorem run_of_unfetched (c : Collaborators σ ε τ ρ φ) (settings : Settings) {store store' : σ}
    {e : ε} (hfetch : c.store.fetch store = (.error e, store')) (moment : Moment)
    (durationMs : Nat) (desk : τ) (reports : ρ) :
    let r := c.run settings moment durationMs store desk reports
    r.trace = [] ∧ r.store = store' := by
  simp only [run, hfetch, and_self]

theorem run_of_no_zones (c : Collaborators σ ε τ ρ φ) (hzones : settings.probing.zones = [])
    {store store' : σ} {states : List IpState} (hfetch : c.store.fetch store = (.ok states, store'))
    (moment : Moment) (durationMs : Nat) (desk : τ) (reports : ρ) :
    let r := c.run settings moment durationMs store desk reports
    r.trace = [] ∧ r.store = store' := by
  have hnone : HealthTracker.ofZones settings.probing.zones = .error .noZones := by
    rw [hzones]
    rfl
  simp only [run, hfetch, hnone, and_self]

theorem run_handledAll (c : Collaborators σ ε τ ρ φ) (hzones : settings.probing.zones ≠ [])
    {store store' : σ} {states : List IpState} (hfetch : c.store.fetch store = (.ok states, store'))
    (moment : Moment) (durationMs : Nat) (desk : τ) (reports : ρ) :
    let r := c.run settings moment durationMs store desk reports
    ∃ effects desk' summary,
      HandledAll c settings (c.visits states) (store', desk) effects (r.store, desk') ∧
      r.trace = effects ++ (outageCalls settings summary).map Effect.ticket := by
  intro r
  obtain ⟨hstore, htrace, -⟩ := c.run_frame hzones hfetch moment durationMs desk reports
  obtain ⟨effects, heffects, hall⟩ := handledAll_foldl_visit c settings (c.visits states)
    (RunState.start settings store' desk)
  rw [← hstore] at hall
  rw [heffects] at htrace
  exact ⟨effects, _, _, hall, htrace⟩

/-- What a run asks of the store and what it leaves there, by the answers of the store alone. -/
theorem run_carried (c : Collaborators σ ε τ ρ φ) (settings : Settings) (moment : Moment)
    (durationMs : Nat) (store : σ) (desk : τ) (reports : ρ) :
    let r := c.run settings moment durationMs store desk reports
    (r.trace.filterMap Effect.applied?, r.store) =
      match c.store.fetch store with
      | (.error _, store') => ([], store')
      | (.ok states, store') =>
        if settings.probing.zones = [] then ([], store')
        else c.store.carried settings (c.visits states) store' := by
  intro r
  rcases hfetch : c.store.fetch store with ⟨e | states, store'⟩
  · obtain ⟨htrace, hstore⟩ := c.run_of_unfetched settings hfetch moment durationMs desk reports
    rw [htrace, hstore]
    rfl
  · by_cases hzones : settings.probing.zones = []
    · obtain ⟨htrace, hstore⟩ := c.run_of_no_zones hzones hfetch moment durationMs desk reports
      simp only [if_pos hzones]
      rw [htrace, hstore]
      rfl
    · obtain ⟨effects, desk', summary, hall, htrace⟩ :=
        c.run_handledAll hzones hfetch moment durationMs desk reports
      simp only [if_neg hzones]
      rw [htrace, List.filterMap_append, Effect.applied?_calls, List.append_nil]
      exact hall.carried.symm

theorem run_of_dryRun (c : Collaborators σ ε τ ρ φ) (hdry : settings.dryRun = true)
    (moment : Moment) (durationMs : Nat) (store : σ) (desk : τ) (reports : ρ) :
    ∀ effect ∈ (c.run settings moment durationMs store desk reports).trace,
      ∃ entry, effect = .checked entry := by
  rcases hfetch : c.store.fetch store with ⟨e | states, store'⟩
  · rw [(c.run_of_unfetched settings hfetch moment durationMs desk reports).1]
    exact fun _ h => absurd h List.not_mem_nil
  · by_cases hzones : settings.probing.zones = []
    · rw [(c.run_of_no_zones hzones hfetch moment durationMs desk reports).1]
      exact fun _ h => absurd h List.not_mem_nil
    · obtain ⟨effects, desk', summary, hall, htrace⟩ :=
        c.run_handledAll hzones hfetch moment durationMs desk reports
      rw [htrace, outageCalls_of_dryRun hdry, List.map_nil, List.append_nil]
      exact hall.of_dryRun hdry

/-- The trace of a run is that of the fetched addresses in their order, each as `Handled` says, and
then at most one report of an outage. A dry run calls neither the store nor the ticket system;
otherwise the store is called once for each address that something is decided about. With another
ticket system the store is asked the same and left the same. -/
theorem run_in_order (c : Collaborators σ ε τ ρ φ) (settings : Settings) (moment : Moment)
    (durationMs : Nat) (store : σ) (desk : τ) (reports : ρ) :
    let r := c.run settings moment durationMs store desk reports
    (∀ e store', c.store.fetch store = (.error e, store') → r.trace = [] ∧ r.store = store') ∧
      (∀ states store', c.store.fetch store = (.ok states, store') →
        settings.probing.zones = [] ∧ r.trace = [] ∧ r.store = store' ∨
        ∃ effects calls desk',
          HandledAll c settings (c.visits states) (store', desk) effects (r.store, desk') ∧
          r.trace = effects ++ calls.map Effect.ticket ∧
          (calls = [] ∨ settings.dryRun = false ∧
            ∃ fraction zones, calls = [TicketCall.outage fraction zones]) ∧
          (r.trace.filterMap Effect.entry?).map (·.ip) = states.map (·.address) ∧
          (settings.dryRun = false → r.trace.filterMap Effect.tried? =
            ((c.visits states).filter fun v => (decision settings v).isSome).map (·.state))) ∧
      (settings.dryRun = true →
        r.trace.filterMap Effect.applied? = [] ∧ r.trace.filterMap Effect.call? = []) ∧
      ∀ (τ' : Type) (tickets : TicketDesk τ') (desk' : τ'),
        let r' := (c.withTickets tickets).run settings moment durationMs store desk' reports
        r'.trace.filterMap Effect.applied? = r.trace.filterMap Effect.applied? ∧
          r'.store = r.store := by
  intro r
  refine ⟨fun e store' hfetch => ?_, fun states store' hfetch => ?_, fun hdry => ⟨?_, ?_⟩,
    fun τ' tickets desk' => ?_⟩
  · exact c.run_of_unfetched settings hfetch moment durationMs desk reports
  · by_cases hzones : settings.probing.zones = []
    · exact .inl ⟨hzones, c.run_of_no_zones hzones hfetch moment durationMs desk reports⟩
    · obtain ⟨effects, desk', summary, hall, htrace⟩ :=
        c.run_handledAll hzones hfetch moment durationMs desk reports
      refine .inr ⟨effects, outageCalls settings summary, desk', hall, htrace, ?_, ?_,
        c.run_tried hzones hfetch moment durationMs desk reports⟩
      · by_cases hdry : settings.dryRun = true
        · exact .inl (outageCalls_of_dryRun hdry summary)
        · rw [Bool.not_eq_true] at hdry
          exact (outageCalls_cases settings summary).imp_right fun h => ⟨hdry, h⟩
      · have htrace' : r.trace = effects ++ (outageCalls settings summary).map .ticket := htrace
        rw [htrace', List.filterMap_append, Effect.entry?_calls, List.append_nil]
        rw [hall.addresses, c.addresses_visits]
  · refine List.filterMap_eq_nil_iff.2 fun effect heffect => ?_
    obtain ⟨entry, rfl⟩ := c.run_of_dryRun hdry moment durationMs store desk reports _ heffect
    rfl
  · refine List.filterMap_eq_nil_iff.2 fun effect heffect => ?_
    obtain ⟨entry, rfl⟩ := c.run_of_dryRun hdry moment durationMs store desk reports _ heffect
    rfl
  · have hhere := c.run_carried settings moment durationMs store desk reports
    have hthere := (c.withTickets tickets).run_carried settings moment durationMs store desk' reports
    exact Prod.mk.inj (hthere.trans hhere.symm)

end Collaborators

end BlocklistWatch
