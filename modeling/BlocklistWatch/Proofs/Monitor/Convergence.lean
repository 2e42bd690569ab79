import Mathlib.Data.List.Induction
import BlocklistWatch.Monitor.Files
import BlocklistWatch.Proofs.Monitor.Visit
import BlocklistWatch.Proofs.Store.Atomicity

/-!
# A second run finds nothing left to do

After a run over a file of rows every row that was dealt with records the zones that list its
address, save those that could not be written. A second run with the same settings and the same
answers therefore decides a change for these and for no others.

* `Row.Settling` is how a row stands in the course of a run, `RunState.Settling` how all rows stand;
  `RunState.Settling.visit` says that every visit keeps it.
* `Collaborators.run_converges` compares a run with the one before it.
-/

namespace BlocklistWatch

theorem filter_mem_of_sublist {α : Type} [DecidableEq α] {part whole : List α}
    (h : part.Sublist whole) (hnodup : whole.Nodup) :
    whole.filter (fun a => decide (a ∈ part)) = part := by
  induction h with
  | slnil => rfl
  | cons a hsub ih =>
    obtain ⟨hnot, hrest⟩ := List.nodup_cons.1 hnodup
    rw [List.filter_cons_of_neg (by simpa using fun hmem => hnot (hsub.subset hmem))]
    exact ih hrest
  | cons_cons a hsub ih =>
    obtain ⟨hnot, hrest⟩ := List.nodup_cons.1 hnodup
    rw [List.filter_cons_of_pos (by simp)]
    congr 1
    conv_rhs => rw [← ih hrest]
    refine List.filter_congr fun b hb => ?_
    have hne : b ≠ a := fun heq => hnot (heq ▸ hb)
    simp [hne]

/-! ## One row -/

theorem Row.id_state? (r : Row) :
    r.state?.map (·.id) = (Ipv4.parse? (Text.trim r.ip)).map fun _ => r.id := by
  rw [Row.state?, Option.map_map]
  rfl

theorem ids_rowStates (rows : List Row) :
    (rowStates rows).map (·.id) =
      rows.filterMap fun r => (Ipv4.parse? (Text.trim r.ip)).map fun _ => r.id := by
  rw [rowStates, List.map_filterMap]
  exact List.filterMap_congr fun r _ => r.id_state?

theorem nodup_ids_rowStates {rows : List Row} (hids : (rows.map (·.id)).Nodup) :
    ((rowStates rows).map (·.id)).Nodup := by
  have hsub : ((rowStates rows).map (·.id)).Sublist (rows.map (·.id)) := by
    induction rows with
    | nil => exact List.Sublist.refl []
    | cons r rows ih =>
      have hrest := ih (List.nodup_cons.1 hids).2
      cases hstate : r.state? with
      | none =>
        rw [rowStates, List.filterMap_cons_none hstate]
        exact hrest.cons r.id
      | some state =>
        rw [rowStates, List.filterMap_cons_some hstate, List.map_cons, (Row.of_state? hstate).1]
        exact hrest.cons_cons r.id
  exact hsub.nodup hids

/-- How a row stands, by what it was at first, when a run has dealt with the rows of some numbers and
could not write some of these. -/
structure Row.Settling (target : Ipv4 → ZoneSet) (done refused : List UInt64) (old new : Row) :
    Prop where
  id : new.id = old.id
  ip : new.ip = old.ip
  /-- What was not dealt with, or could not be written, is as it was. -/
  kept : old.id ∉ done ∨ old.id ∈ refused → new = old
  /-- What could not be written was to be changed. -/
  pending : old.id ∈ refused → ∀ state, old.state? = some state →
    target state.address ≠ old.zones
  /-- What was dealt with records the zones that list the address. -/
  settled : old.id ∈ done → old.id ∉ refused → ∀ state, old.state? = some state →
    new.zones = target state.address

namespace Row.Settling

variable {target : Ipv4 → ZoneSet} {done done' refused refused' : List UInt64} {old new : Row}

theorem refl (target : Ipv4 → ZoneSet) (row : Row) : Row.Settling target [] [] row row where
  id := rfl
  ip := rfl
  kept := fun _ => rfl
  pending := fun h => absurd h List.not_mem_nil
  settled := fun h => absurd h List.not_mem_nil

theorem same (hnot : old.id ∉ refused)
    (htarget : ∀ state, old.state? = some state → target state.address = old.zones) :
    Row.Settling target done refused old old where
  id := rfl
  ip := rfl
  kept := fun _ => rfl
  pending := fun h => absurd h hnot
  settled := fun _ _ state hstate => (htarget state hstate).symm

theorem unwritten (hmem : old.id ∈ refused)
    (htarget : ∀ state, old.state? = some state → target state.address ≠ old.zones) :
    Row.Settling target done refused old old where
  id := rfl
  ip := rfl
  kept := fun _ => rfl
  pending := fun _ => htarget
  settled := fun _ h => absurd hmem h

theorem changed (hid : new.id = old.id) (hip : new.ip = old.ip) (hdone : old.id ∈ done)
    (hnot : old.id ∉ refused)
    (htarget : ∀ state, old.state? = some state → new.zones = target state.address) :
    Row.Settling target done refused old new where
  id := hid
  ip := hip
  kept := fun h => (h.elim (absurd hdone) fun hmem => absurd hmem hnot)
  pending := fun h => absurd h hnot
  settled := fun _ _ => htarget

theorem congr (h : Row.Settling target done refused old new)
    (hdone : old.id ∈ done' ↔ old.id ∈ done) (hrefused : old.id ∈ refused' ↔ old.id ∈ refused) :
    Row.Settling target done' refused' old new where
  id := h.id
  ip := h.ip
  kept := fun hkept => h.kept (hkept.imp (mt hdone.2) hrefused.1)
  pending := fun hpending => h.pending (hrefused.1 hpending)
  settled := fun hmem hnot => h.settled (hdone.1 hmem) (mt hrefused.2 hnot)

theorem state?_eq_some (h : Row.Settling target done refused old new) {state : IpState}
    (hstate : new.state? = some state) :
    ∃ first, old.state? = some first ∧ first.address = state.address ∧ first.id = state.id := by
  obtain ⟨hid, -, haddress⟩ := Row.of_state? hstate
  rw [h.ip] at haddress
  refine ⟨⟨old.id, state.address, old.effectivePriority, old.oldPriority, old.zones,
    old.lastEvent⟩, ?_, rfl, h.id.symm.trans hid.symm⟩
  rw [Row.state?, haddress, Option.map_some]

theorem advance {rows : List Row} (hids : (rows.map (·.id)).Nodup) {current next : Row → Row}
    (hcurrent : ∀ row ∈ rows, Row.Settling target done refused row (current row))
    {this : Row} (hthis : this ∈ rows) (hnew : this.id ∉ done)
    (hrefused : ∀ id, id ≠ this.id → (id ∈ refused' ↔ id ∈ refused))
    (hothers : ∀ row, row.id ≠ this.id → next row = row)
    (hnext : Row.Settling target (done ++ [this.id]) refused' this (next this)) :
    ∀ row ∈ rows, Row.Settling target (done ++ [this.id]) refused' row (next (current row)) := by
  intro row hrow
  have hsettling := hcurrent row hrow
  by_cases hid : row.id = this.id
  · obtain rfl := List.inj_on_of_nodup_map hids hrow hthis hid
    rw [hsettling.kept (.inl hnew)]
    exact hnext
  · rw [hothers _ (by rwa [hsettling.id])]
    exact hsettling.congr (by simp [hid]) (hrefused row.id hid)

end Row.Settling

/-! ## All rows -/

section Rows

variable {τ ρ φ : Type}

/-- The numbers of the states of which the store could not write a transition. -/
def refusedIds (trace : List Effect) : List UInt64 :=
  (trace.filterMap Effect.refused?).map (·.id)

/-- How the rows stand when a run has dealt with some states. -/
structure RunState.Settling (settings : Settings) (lookup : String → Lookup) (rows : List Row)
    (done : List IpState) (s : RunState (FileStore × Disk) τ) : Prop where
  rows : ∃ current : Row → Row, s.store.1.rows = rows.map current ∧
    ∀ row ∈ rows, Row.Settling (listedAt settings lookup) (done.map (·.id)) (refusedIds s.trace)
      row (current row)
  refused : (refusedIds s.trace).Sublist (done.map (·.id))

theorem storable_listedAt {settings : Settings}
    (hstorable : ∀ zone ∈ settings.probing.zones, ZoneName.Storable zone)
    (lookup : String → Lookup) (ip : Ipv4) : (listedAt settings lookup ip).Storable :=
  fun zone hzone => hstorable zone (mem_zones_of_mem_listedAt hzone)

namespace RunState.Settling

variable {settings : Settings} {lookup : String → Lookup} {rows : List Row}
  {done : List IpState} {s : RunState (FileStore × Disk) τ}

theorem start (settings : Settings) (lookup : String → Lookup) (store : FileStore) (disk : Disk)
    (desk : τ) :
    RunState.Settling settings lookup store.rows []
      (RunState.start settings (store, disk) desk) where
  rows := ⟨fun row => row, (List.map_id' _).symm, fun row _ => Row.Settling.refl _ row⟩
  refused := List.Sublist.refl []

theorem nodup_ids (hids : (rows.map (·.id)).Nodup)
    (h : RunState.Settling settings lookup rows done s) : (s.store.1.rows.map (·.id)).Nodup := by
  obtain ⟨current, hcurrent, hrows⟩ := h.rows
  have hsame : s.store.1.rows.map (·.id) = rows.map (·.id) := by
    rw [hcurrent, List.map_map]
    exact List.map_congr_left fun row hrow => (hrows row hrow).id
  rwa [hsame]

def callFor (settings : Settings) (state : IpState) (t : Transition) : FileStore.Call :=
  ⟨state, t, settings.priority⟩

theorem apply_eq_run (settings : Settings) (state : IpState) (t : Transition)
    (w : FileStore × Disk) :
    fileStoreDesk.apply state t settings.priority w = (callFor settings state t).run w := by
  simp only [fileStoreDesk, FileStore.Call.run, callFor]

theorem run_callFor (hids : (rows.map (·.id)).Nodup)
    (hstorable : ∀ zone ∈ settings.probing.zones, ZoneName.Storable zone) {this : Row}
    (hthis : this ∈ rows) {state : IpState} (hstate : this.state? = some state)
    (hnew : this.id ∉ done.map (·.id)) (h : RunState.Settling settings lookup rows done s)
    {t : Transition} (hsome : decision settings ⟨state, lookup⟩ = some t) :
    this.update? t settings.priority =
        some (this.change (.between this.zones (listedAt settings lookup state.address))
          (listedAt settings lookup state.address).stored settings.priority) ∧
      ((∃ e disk, (callFor settings state t).run s.store = (.error e, s.store.1, disk)) ∨
        ∃ disk, (callFor settings state t).run s.store = (.ok true,
          { s.store.1 with rows := (callFor settings state t).rowsAfter s.store.1.rows }, disk)) := by
  obtain ⟨hid, hlisted, -⟩ := Row.of_state? hstate
  obtain ⟨hne, ht⟩ := IpState.decide_eq_some_iff.1 hsome
  rw [hlisted] at hne
  have hmem : this ∈ s.store.1.rows := by
    obtain ⟨current, hcurrent, hrows⟩ := h.rows
    rw [hcurrent, ← (hrows this hthis).kept (.inl hnew)]
    exact List.mem_map_of_mem hthis
  have hupdate := Row.update?_transition hstate
    (storable_listedAt hstorable lookup state.address) hne settings.priority
  rw [← ht] at hupdate
  exact ⟨hupdate, FileStore.Call.run_of_mem (h.nodup_ids hids) hmem hid.symm hupdate⟩

/-- A visit settles the row of its address, or leaves it as it was if it cannot be written. -/
theorem visit {c : Collaborators (FileStore × Disk) StoreError τ ρ φ}
    (hstore : c.store = fileStoreDesk) (hdry : settings.dryRun = false)
    (hstorable : ∀ zone ∈ settings.probing.zones, ZoneName.Storable zone)
    (hids : (rows.map (·.id)).Nodup) {state : IpState} (hstate : state ∈ rowStates rows)
    (hnew : state.id ∉ done.map (·.id)) (h : RunState.Settling settings lookup rows done s) :
    RunState.Settling settings lookup rows (done ++ [state])
      (RunState.visit c settings s ⟨state, lookup⟩) := by
  obtain ⟨current, hcurrent, hrows⟩ := h.rows
  obtain ⟨this, hthis, hthis'⟩ := List.mem_filterMap.1 hstate
  obtain ⟨hid, hlisted, haddress⟩ := Row.of_state? hthis'
  have hnot : this.id ∉ refusedIds s.trace := fun hmem => hnew (hid ▸ h.refused.subset hmem)
  have hnew' : this.id ∉ done.map (·.id) := hid ▸ hnew
  have hdone : (done ++ [state]).map (·.id) = done.map (·.id) ++ [this.id] := by
    rw [List.map_append, ← hid]
    rfl
  have hunique : ∀ st, this.state? = some st → st = state := fun st hst =>
    Option.some.inj (hst.symm.trans hthis')
  cases (visited c settings s ⟨state, lookup⟩).1 with
  | unchanged hnone _ _ hstored _ _ htrace =>
    have hrefused :
        refusedIds (RunState.visit c settings s ⟨state, lookup⟩).trace = refusedIds s.trace := by
      simp [refusedIds, htrace, List.filterMap_append, Effect.refused?]
    have hsame : listedAt settings lookup state.address = this.zones :=
      (IpState.decide_eq_none_iff.1 hnone).trans hlisted
    refine ⟨⟨fun row => current row, by rw [hstored, hcurrent], ?_⟩, ?_⟩
    · rw [hdone, hrefused]
      refine Row.Settling.advance hids hrows hthis hnew' (fun _ _ => Iff.rfl) (fun _ _ => rfl) ?_
      exact Row.Settling.same hnot fun st hst => by rw [hunique st hst, hsame]
    · rw [hdone, hrefused]
      exact h.refused.trans (List.sublist_append_left _ _)
  | logged hdry' _ _ _ _ _ _ _ => exact absurd (hdry.symm.trans hdry') (by simp)
  | @refused t e counted entry _ hsome _ _ happly _ _ _ htrace =>
    have hrefused : refusedIds (RunState.visit c settings s ⟨state, lookup⟩).trace =
        refusedIds s.trace ++ [this.id] := by
      simp [refusedIds, htrace, List.filterMap_append, Effect.refused?_ofChange, hid]
    have hstored : (RunState.visit c settings s ⟨state, lookup⟩).store.1 = s.store.1 := by
      rw [hstore, apply_eq_run] at happly
      rcases (h.run_callFor hids hstorable hthis hthis' hnew' hsome).2 with
        ⟨e', disk, hrun⟩ | ⟨disk, hrun⟩
      · rw [(Prod.mk.inj (happly.symm.trans hrun)).2]
      · exact absurd (Prod.mk.inj (happly.symm.trans hrun)).1 (by simp)
    refine ⟨⟨fun row => current row, by rw [hstored, hcurrent], ?_⟩, ?_⟩
    · rw [hdone, hrefused]
      refine Row.Settling.advance hids hrows hthis hnew' (fun id hne => by simp [hne])
        (fun _ _ => rfl) ?_
      refine Row.Settling.unwritten (by simp) fun st hst => ?_
      rw [hunique st hst, ← hlisted]
      exact (IpState.decide_eq_some_iff.1 hsome).1
    · rw [hdone, hrefused]
      exact h.refused.append (List.Sublist.refl _)
  | @accepted t written action calls entry _ hsome _ _ happly _ _ htrace =>
    have hrefused :
        refusedIds (RunState.visit c settings s ⟨state, lookup⟩).trace = refusedIds s.trace := by
      simp [refusedIds, htrace, List.filterMap_append, Effect.refused?_ofChange]
    obtain ⟨hupdate, hcall⟩ := h.run_callFor hids hstorable hthis hthis' hnew' hsome
    have hstored : (RunState.visit c settings s ⟨state, lookup⟩).store.1.rows =
        rows.map fun row => (callFor settings state t).rowAfter (current row) := by
      rw [hstore, apply_eq_run] at happly
      rcases hcall with ⟨e', disk, hrun⟩ | ⟨disk, hrun⟩
      · exact absurd (Prod.mk.inj (happly.symm.trans hrun)).1 (by simp)
      · rw [(Prod.mk.inj (happly.symm.trans hrun)).2, hcurrent]
        exact List.map_map
    have hchanged : (callFor settings state t).rowAfter this =
        this.change (.between this.zones (listedAt settings lookup state.address))
          (listedAt settings lookup state.address).stored settings.priority := by
      have hafter : (callFor settings state t).rowAfter this =
          (this.update? t settings.priority).getD this := if_pos hid.symm
      rw [hafter, hupdate, Option.getD_some]
    have hothers : ∀ row : Row, row.id ≠ this.id →
        (callFor settings state t).rowAfter row = row := by
      intro row hne
      rw [← hid] at hne
      exact if_neg hne
    refine ⟨⟨_, hstored, ?_⟩, ?_⟩
    · rw [hdone, hrefused]
      refine Row.Settling.advance hids hrows hthis hnew' (fun _ _ => Iff.rfl) hothers ?_
      rw [hchanged]
      refine Row.Settling.changed (Row.id_change ..) (Row.ip_change ..) (by simp) hnot
        fun st hst => ?_
      rw [hunique st hst]
      exact Row.zones_change (storable_listedAt hstorable lookup state.address) ..
    · rw [hdone, hrefused]
      exact h.refused.trans (List.sublist_append_left _ _)

theorem foldl_visit {c : Collaborators (FileStore × Disk) StoreError τ ρ φ}
    (lookup : String → Lookup) (hstore : c.store = fileStoreDesk) (hdry : settings.dryRun = false)
    (hstorable : ∀ zone ∈ settings.probing.zones, ZoneName.Storable zone) {store : FileStore}
    (hids : (store.rows.map (·.id)).Nodup) (disk : Disk) (desk : τ) :
    ∀ done : List IpState, done <+: rowStates store.rows →
      RunState.Settling settings lookup store.rows done
        ((done.map fun state => ⟨state, lookup⟩).foldl (RunState.visit c settings)
          (RunState.start settings (store, disk) desk)) := by
  intro done
  induction done using List.reverseRecOn with
  | nil => exact fun _ => RunState.Settling.start settings lookup store disk desk
  | append_singleton done state ih =>
    intro hpart
    have hstate : state ∈ rowStates store.rows := hpart.subset (by simp)
    have hnew : state.id ∉ done.map (·.id) := by
      have hnodup := (hpart.sublist.map (·.id)).nodup (nodup_ids_rowStates hids)
      rw [List.map_append, List.nodup_append] at hnodup
      exact fun hmem => hnodup.2.2 _ hmem _ (by simp) rfl
    rw [List.map_append, List.foldl_append]
    exact (ih ((List.prefix_append _ _).trans hpart)).visit hstore hdry hstorable hids hstate hnew

/-! ## The rows afterwards -/

theorem ids_states (h : RunState.Settling settings lookup rows done s) :
    (rowStates s.store.1.rows).map (·.id) = (rowStates rows).map (·.id) := by
  obtain ⟨current, hcurrent, hrows⟩ := h.rows
  rw [ids_rowStates, ids_rowStates, hcurrent, List.filterMap_map]
  refine List.filterMap_congr fun r hr => ?_
  rw [Function.comp_apply, (hrows r hr).ip, (hrows r hr).id]

theorem isSome_decision (h : RunState.Settling settings lookup rows (rowStates rows) s)
    {state : IpState} (hstate : state ∈ rowStates s.store.1.rows) :
    (decision settings ⟨state, lookup⟩).isSome = decide (state.id ∈ refusedIds s.trace) := by
  obtain ⟨current, hcurrent, hrows⟩ := h.rows
  obtain ⟨new, hnew, hnew'⟩ := List.mem_filterMap.1 hstate
  rw [hcurrent] at hnew
  obtain ⟨old, hold, rfl⟩ := List.mem_map.1 hnew
  have hrow := hrows old hold
  obtain ⟨first, hfirst, haddress, hid⟩ := hrow.state?_eq_some hnew'
  obtain ⟨-, hlisted, -⟩ := Row.of_state? hnew'
  have hfirstid : first.id = old.id := (Row.of_state? hfirst).1
  have hdone : old.id ∈ (rowStates rows).map (·.id) :=
    List.mem_map.2 ⟨first, List.mem_filterMap.2 ⟨old, hold, hfirst⟩, hfirstid⟩
  rw [← hid, hfirstid]
  by_cases hrefused : old.id ∈ refusedIds s.trace
  · have hne := hrow.pending hrefused first hfirst
    rw [haddress, ← hrow.kept (.inr hrefused), ← hlisted] at hne
    rw [decision, IpState.decide_eq_some_iff.2 ⟨hne, rfl⟩]
    simp [hrefused]
  · have heq := hrow.settled hdone hrefused first hfirst
    rw [haddress, ← hlisted] at heq
    rw [decision, IpState.decide_eq_none_iff.2 heq.symm]
    simp [hrefused]

end RunState.Settling

/-! ## One run after the other -/

theorem fetch_eq {c : Collaborators (FileStore × Disk) StoreError τ ρ φ}
    (hstore : c.store = fileStoreDesk) (store : FileStore) (disk : Disk) :
    c.store.fetch (store, disk) = (.ok (rowStates store.rows), (store, disk)) := by
  rw [hstore]
  rfl

/-- After a run the same answers call for a change just of the rows that it could not write. -/
theorem Collaborators.settles (c : Collaborators (FileStore × Disk) StoreError τ ρ φ)
    (hstore : c.store = fileStoreDesk) {lookup : String → Lookup}
    (halike : ∀ k, c.lookup k = lookup) {settings : Settings} (hdry : settings.dryRun = false)
    (hzones : settings.probing.zones ≠ [])
    (hstorable : ∀ zone ∈ settings.probing.zones, ZoneName.Storable zone) {store : FileStore}
    (hids : (store.rows.map (·.id)).Nodup) (disk : Disk) (desk : τ) (reports : ρ)
    (moment : Moment) (durationMs : Nat) :
    let r := c.run settings moment durationMs (store, disk) desk reports
    let left := rowStates r.store.1.rows
    (left.map (·.id)).Nodup ∧ (refusedIds r.trace).Sublist (left.map (·.id)) ∧
      ∀ state ∈ left,
        (decision settings ⟨state, lookup⟩).isSome = decide (state.id ∈ refusedIds r.trace) := by
  obtain ⟨hstored, htrace, -⟩ :=
    c.run_frame hzones (fetch_eq hstore store disk) moment durationMs desk reports
  rw [c.visits_of_alike _ halike] at hstored htrace
  have hsettling := RunState.Settling.foldl_visit lookup hstore hdry hstorable hids disk desk _
    (List.prefix_refl (rowStates store.rows))
  intro r left
  have hrefused : refusedIds r.trace = refusedIds (((rowStates store.rows).map fun state =>
      ⟨state, lookup⟩).foldl (RunState.visit c settings)
        (RunState.start settings (store, disk) desk)).trace := by
    rw [refusedIds, htrace, List.filterMap_append, Effect.refused?_calls, List.append_nil,
      refusedIds]
  have hleft : left.map (·.id) = (rowStates store.rows).map (·.id) := by
    have hsame := hsettling.ids_states
    rwa [← hstored] at hsame
  refine ⟨?_, ?_, fun state hstate => ?_⟩
  · rw [hleft]
    exact nodup_ids_rowStates hids
  · rw [hleft, hrefused]
    exact hsettling.refused
  · rw [hrefused]
    refine hsettling.isSome_decision ?_
    rwa [← hstored]

/-- A run and a later one over the rows that it left, with the same settings and look-ups that
always answer alike; the ticket system, the reports, the disk and the public resolvers may have
changed in between. The
second run decides changes for exactly those rows that the first could not write, and hands exactly
these to the store. If there were none it changes nothing, and of the ticket system it asks at most
to open an issue about an outage. -/
theorem Collaborators.run_converges
    (c c' : Collaborators (FileStore × Disk) StoreError τ ρ φ) (hstore : c.store = fileStoreDesk)
    (hstore' : c'.store = fileStoreDesk) {lookup : String → Lookup}
    (halike : ∀ k, c.lookup k = lookup) (halike' : ∀ k, c'.lookup k = lookup) (settings : Settings)
    (hdry : settings.dryRun = false) (hzones : settings.probing.zones ≠ [])
    (hstorable : ∀ zone ∈ settings.probing.zones, ZoneName.Storable zone) (store : FileStore)
    (hids : (store.rows.map (·.id)).Nodup) (disk disk' : Disk) (desk desk' : τ)
    (reports reports' : ρ) (moment moment' : Moment) (durationMs durationMs' : Nat) {o : RunOutcome}
    (hfirst : (c.run settings moment durationMs (store, disk) desk reports).outcome = .ok o) :
    let first := c.run settings moment durationMs (store, disk) desk reports
    let second :=
      c'.run settings moment' durationMs' (first.store.1, disk') desk' reports'
    (second.trace.filterMap Effect.tried?).map (·.id) = refusedIds first.trace ∧
    (second.trace.filterMap Effect.entry?).map (fun e => (e.ip, e.kind.isSome)) =
      first.store.1.states.map (fun state =>
        (state.address, decide (state.id ∈ refusedIds first.trace))) ∧
    (∀ e, second.outcome = .error e → ∃ failure, e = .report failure) ∧
    (o.stats.storeFailures = 0 →
      second.trace.filterMap Effect.tried? = [] ∧ second.store = (first.store.1, disk') ∧
      (second.trace.filterMap Effect.call? = [] ∨
        ∃ fraction zones, second.trace.filterMap Effect.call? = [.outage fraction zones]) ∧
      ∀ o', second.outcome = .ok o' →
        o'.stats.total = first.store.1.states.length ∧ o'.stats.unchanged = o'.stats.total) := by
  intro first second
  obtain ⟨hnodup, hsub, hdecision⟩ :=
    c.settles hstore halike hdry hzones hstorable hids disk desk reports moment durationMs
  have hvisits := c'.visits_of_alike (rowStates first.store.1.rows) halike'
  have hfetch := fetch_eq hstore' first.store.1 disk'
  have htried : (second.trace.filterMap Effect.tried?).map (·.id) = refusedIds first.trace := by
    have hfilter := filter_mem_of_sublist hsub hnodup
    rw [List.filter_map] at hfilter
    rw [c'.run_tried hzones hfetch moment' durationMs' desk' reports' hdry,
      hvisits, List.filter_map, List.map_map, List.map_map]
    exact (congrArg (List.map (·.id)) (List.filter_congr hdecision)).trans hfilter
  have hentries : (second.trace.filterMap Effect.entry?).map (fun e => (e.ip, e.kind.isSome)) =
      first.store.1.states.map (fun state =>
        (state.address, decide (state.id ∈ refusedIds first.trace))) := by
    have hkinds := congrArg
      (List.map fun entry : Ipv4 × Option TransitionKind => (entry.1, entry.2.isSome))
      (c'.run_entries hzones hfetch moment' durationMs' desk' reports')
    rw [hvisits, List.map_map, List.map_map, List.map_map] at hkinds
    refine hkinds.trans (List.map_congr_left fun state hstate => ?_)
    rw [Function.comp_apply, Function.comp_apply, Option.isSome_map, hdecision state hstate]
  obtain ⟨-, -, -, hfailure⟩ := c'.run_frame hzones hfetch moment' durationMs' desk' reports'
  refine ⟨htried, hentries, hfailure, fun hnone => ?_⟩
  -- Nothing was refused, so nothing is decided.
  have hempty : refusedIds first.trace = [] := by
    rw [c.run_refused hzones (fetch_eq hstore store disk) moment durationMs desk reports hfirst,
      List.length_eq_zero_iff] at hnone
    rw [refusedIds, hnone, List.map_nil]
  have hundecided : ∀ v ∈ c'.visits (rowStates first.store.1.rows), decision settings v = none := by
    intro v hv
    rw [hvisits] at hv
    obtain ⟨state, hstate, rfl⟩ := List.mem_map.1 hv
    have hsome := hdecision state hstate
    rw [hempty] at hsome
    simpa using hsome
  rw [hempty] at htried
  exact ⟨List.map_eq_nil_iff.1 htried,
    c'.run_of_unchanged hzones hfetch moment' durationMs' desk' reports' hundecided⟩

end Rows

/-- Two runs over two rows whose stored zones are out of date; the second row cannot be written in the
first run. -/
theorem Collaborators.run_converges_unwritten :
    let rows : List Row :=
      [⟨1, "192.0.2.1", some 70, none, some " b.example,, a.example", none, []⟩,
        ⟨2, "192.0.2.2", none, none, some "a.example", none, []⟩]
    let disk : Disk := ⟨Files.set (fun _ => none) "ips.json" (some (.file (rowsText rows))), [],
      fun n => if n = 3 then some ⟨.permissionDenied, none⟩ else none⟩
    let lookup : Lookup := fun name =>
      .answer (if name = "1.2.0.192.a.example" then .addresses [⟨127, 0, 0, 2⟩]
        else .noName none) 0
    let settings : Settings :=
      { Settings.standard with probing := { ProbeSettings.standard with zones := ["a.example"] } }
    let c : Collaborators (FileStore × Disk) StoreError Nat Unit Unit :=
      ⟨fileStoreDesk, .silent, ⟨fun _ r => (.ok [], r)⟩, fun _ _ => lookup,
        fun _ => .silence, fun _ => .silence⟩
    let first := c.run settings ⟨0, 0⟩ 0 (⟨"ips.json", rows⟩, disk) 0 ()
    let second := c.run settings ⟨1, 0⟩ 0 (first.store.1, disk) 0 ()
    first.outcome.isOk = true ∧ refusedIds first.trace = [2] ∧
      (second.trace.filterMap Effect.tried?).map (·.id) = [2] := by
  intro rows disk lookup settings c first second
  have hok : first.outcome.isOk = true := by decide +kernel
  have hrefused : refusedIds first.trace = [2] := by decide +kernel
  obtain ⟨o, ho⟩ : ∃ o, first.outcome = .ok o := by
    cases houtcome : first.outcome with
    | ok o => exact ⟨o, rfl⟩
    | error e =>
      rw [houtcome] at hok
      exact absurd hok Bool.false_ne_true
  have hconverges := c.run_converges c rfl rfl (fun _ => rfl) (fun _ => rfl) settings rfl
    (by decide) (by decide) ⟨"ips.json", rows⟩ (by decide) disk disk 0 0 () () ⟨0, 0⟩ ⟨1, 0⟩ 0 0 ho
  exact ⟨hok, hrefused, hconverges.1.trans hrefused⟩

end BlocklistWatch
