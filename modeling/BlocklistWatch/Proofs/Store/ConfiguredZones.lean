import BlocklistWatch.Proofs.Config.Normalized
import BlocklistWatch.Proofs.Store.ChangedRow

/-!
# Configured zones in rows

The zones of checked settings are written to a row and read back from it in a later run. They come
back as they were just as far as none of them holds a comma: such a name comes apart into others, and
nothing keeps it out of the settings.

* `ZoneSet.ofStored_stored_iff`: only storable sets are read back as they were written.
* `FileStore.configured_zones_kept`: what is fetched from a row after configured zones were written.
* `FileStore.configured_zone_split`: settings that pass the check and an address that is found on
  other zones than it was listed on.
-/

namespace BlocklistWatch

/-- A set is read back as it was written exactly if it is storable. -/
theorem ZoneSet.ofStored_stored_iff {s : ZoneSet} : ofStored s.stored = s ↔ s.Storable :=
  ⟨fun h => h ▸ storable_ofStored s.stored, ofStored_stored⟩

/-- What a decision makes of a recovery: the address was listed and no zone lists it any more. -/
theorem IpState.exists_recovery {s : IpState} {seen : List Observation}
    (hbefore : s.listedZones.isEmpty = false) (hnow : (Observation.listed seen).isEmpty = true) :
    ∃ t, s.decide seen = some t ∧ t.kind = .recovery := by
  refine ⟨s.transition seen, decide_eq_some_iff.2 ⟨fun hsame => ?_, rfl⟩, ?_⟩
  · rw [hsame, hbefore] at hnow
    exact Bool.noConfusion hnow
  · rw [kind_transition, TransitionKind.between, hbefore, hnow]
    rfl

namespace FileStore

/-- A transition to a set of configured zones was written. The state that is fetched from the row
records the very set exactly if no zone of it holds a comma. Then it is taken for unchanged just as
long as the same zones list it, and if none lists it any more it recovers. -/
theorem configured_zones_kept {settings : Settings} {zones : ZoneSet}
    (hzones : ∀ zone ∈ zones, zone ∈ settings.validate.1.probing.zones)
    {store store' : FileStore} {disk disk' : Disk} {state : IpState} {t : Transition}
    {policy : PriorityPolicy} (hlists : ZoneSet.ofList t.listedZones = zones)
    (hwritten : store.apply disk state t policy = (.ok true, store', disk')) :
    (ZoneSet.ofStored zones.stored = zones ↔ ∀ zone ∈ zones, ',' ∉ zone.toList) ∧
      ∃ row changed, findRow? store.rows state.id = some row ∧
        findRow? store'.rows state.id = some changed ∧ changed.ip = row.ip ∧
        ∀ s, changed.state? = some s → s ∈ store'.states ∧
          (s.listedZones = zones ↔ ∀ zone ∈ zones, ',' ∉ zone.toList) ∧
          ((∀ zone ∈ zones, ',' ∉ zone.toList) → ∀ seen,
            (s.decide seen = none ↔ Observation.listed seen = zones) ∧
            (zones.isEmpty = false → (Observation.listed seen).isEmpty = true →
              ∃ t', s.decide seen = some t' ∧ t'.kind = .recovery)) := by
  have hreads : ZoneSet.ofStored zones.stored = zones ↔ ∀ zone ∈ zones, ',' ∉ zone.toList :=
    ZoneSet.ofStored_stored_iff.trans (ZoneSet.storable_iff_of_normalized hzones)
  have hrun : Call.run ⟨state, t, policy⟩ (store, disk) = (.ok true, store', disk') := hwritten
  obtain ⟨row, changed, hfind, hupdate, hfound⟩ :=
    Call.findRow?_of_written (congrArg Prod.fst hrun)
  rw [hrun] at hfound
  have hchange : changed = row.change t.kind zones.stored policy :=
    hlists ▸ Row.of_update? hupdate
  refine ⟨hreads, row, changed, hfind, hfound, ?_, fun s hs => ?_⟩
  · rw [hchange, Row.ip_change]
  have hrecorded : s.listedZones = ZoneSet.ofStored zones.stored := by
    rw [(Row.of_state? hs).2.1, Row.zones, hchange, Row.zoneText_change]
    rfl
  have hmem : changed ∈ store'.rows := List.mem_of_find?_eq_some hfound
  refine ⟨List.mem_filterMap.2 ⟨changed, hmem, hs⟩, hrecorded ▸ hreads, fun hcomma seen => ?_⟩
  have hkept : s.listedZones = zones := hrecorded.trans (hreads.2 hcomma)
  refine ⟨?_, fun hsome hnow => IpState.exists_recovery (hkept ▸ hsome) hnow⟩
  rw [IpState.decide_eq_none_iff, hkept]

/-- Two zones of settings whose names were not in form. -/
theorem configured_zones_kept_in_form :
    let settings : Settings :=
      { Settings.standard with probing := ⟨[" A.example ", "b.EXAMPLE"], 5, 10, true⟩ }
    let zones : ZoneSet := .ofList ["b.example", "a.example"]
    let store : FileStore := ⟨"ips.json", [⟨1, "192.0.2.1", some 70, none, none, none, []⟩]⟩
    let state : IpState := ⟨1, ⟨192, 0, 2, 1⟩, 70, none, .empty, none⟩
    let t := state.transition [⟨"b.example", .listed⟩, ⟨"a.example", .listed⟩]
    let after := store.apply default state t .standard
    settings.validate.2 = none ∧ after.1 = .ok true ∧
      ∃ s ∈ after.2.1.states, s.listedZones = zones ∧
        ∃ t', s.decide [⟨"a.example", .notListed⟩] = some t' ∧ t'.kind = .recovery := by
  intro settings zones store state t after
  have hzones : ∀ zone ∈ zones, zone ∈ settings.validate.1.probing.zones := by decide +kernel
  have hlists : ZoneSet.ofList t.listedZones = zones := by decide +kernel
  have hwritten : after = (.ok true, after.2.1, after.2.2) := rfl
  obtain ⟨-, row, changed, -, hfound, -, hfetched⟩ :=
    configured_zones_kept hzones hlists hwritten
  have hcomma : ∀ zone ∈ zones, ',' ∉ zone.toList := by decide +kernel
  have hchanged : some changed = after.2.1.rows[0]? := hfound.symm
  have husable : changed.state?.isSome := by
    rw [Option.some.inj hchanged]
    decide +kernel
  obtain ⟨s, hs⟩ := Option.isSome_iff_exists.1 husable
  obtain ⟨hmem, hsame, hlater⟩ := hfetched s hs
  exact ⟨by decide +kernel, rfl, s, hmem, hsame.2 hcomma,
    (hlater hcomma [⟨"a.example", .notListed⟩]).2 (by decide +kernel) (by decide +kernel)⟩

/-- A zone whose name holds a comma passes the check of the settings, and an address that it lists is
found on two other zones. -/
theorem configured_zone_split :
    let settings : Settings :=
      { Settings.standard with probing := ⟨[" A,b "], 5, 10, true⟩ }
    let zones : ZoneSet := .ofList ["a,b"]
    let store : FileStore := ⟨"ips.json", [⟨1, "192.0.2.1", some 70, none, none, none, []⟩]⟩
    let state : IpState := ⟨1, ⟨192, 0, 2, 1⟩, 70, none, .empty, none⟩
    let t := state.transition [⟨"a,b", .listed⟩]
    let after := store.apply default state t .standard
    settings.validate.2 = none ∧ settings.validate.1.probing.zones = zones.toList ∧
      state ∈ store.states ∧ state.decide [⟨"a,b", .listed⟩] = some t ∧
      t.listedZones = zones.toList ∧ after.1 = .ok true ∧
      after.2.1.states.map (·.listedZones) = [.ofList ["a", "b"]] ∧
      ZoneSet.ofStored zones.stored ≠ zones := by
  intro settings zones store state t after
  exact ⟨by decide +kernel, by decide +kernel, by decide +kernel, by decide +kernel,
    by decide +kernel, rfl, by decide +kernel, by decide +kernel⟩

end FileStore

end BlocklistWatch
