import BlocklistWatch.Proofs.Decision
import BlocklistWatch.Store.Row

/-!
# Rows and decided transitions

The stored text of a row and the set of zones in a transition are compared as texts. For names that
can be stored that is a comparison of sets, so a transition that was decided for the row is never
taken for one that was applied before, and the row records its zones afterwards.

* `Row.update?_eq_none_iff`: an update is skipped just when the row records the zones already.
* `Row.update?_transition`: a decided transition is applied, as the change from the recorded zones.
* `Row.zones_change`: a changed row records the zones it was changed to.
-/

namespace BlocklistWatch

namespace Row

theorem storable_zones (r : Row) : r.zones.Storable :=
  ZoneSet.storable_ofStored _

/-! ## What a row records -/

theorem isSome_state?_iff {r : Row} :
    r.state?.isSome ↔ (Ipv4.parse? (Text.trim r.ip)).isSome := by
  rw [state?, Option.isSome_map]

theorem of_state? {r : Row} {s : IpState} (h : r.state? = some s) :
    s.id = r.id ∧ s.listedZones = r.zones ∧ Ipv4.parse? (Text.trim r.ip) = some s.address := by
  obtain ⟨address, haddress, rfl⟩ := Option.map_eq_some_iff.1 h
  exact ⟨rfl, rfl, haddress⟩

/-! ## Changes -/

section Change

variable (r : Row) (kind : TransitionKind) (target : String) (policy : PriorityPolicy)

@[simp] theorem id_change : (r.change kind target policy).id = r.id := by
  cases kind <;> rfl

@[simp] theorem ip_change : (r.change kind target policy).ip = r.ip := by
  cases kind <;> rfl

@[simp] theorem zoneText_change : (r.change kind target policy).zoneText = some target := by
  cases kind <;> rfl

theorem isSome_state?_change :
    (r.change kind target policy).state?.isSome = r.state?.isSome := by
  rw [Bool.eq_iff_iff, isSome_state?_iff, isSome_state?_iff, ip_change]

end Change

theorem zones_change {zones : ZoneSet} (h : zones.Storable) (r : Row) (kind : TransitionKind)
    (policy : PriorityPolicy) : (r.change kind zones.stored policy).zones = zones := by
  rw [Row.zones, zoneText_change]
  exact ZoneSet.ofStored_stored h

/-! ## Updates -/

theorem update?_eq_none_iff {r : Row} {t : Transition} {policy : PriorityPolicy}
    (h : (ZoneSet.ofList t.listedZones).Storable) :
    r.update? t policy = none ↔ r.zones = ZoneSet.ofList t.listedZones := by
  unfold update?
  rw [← ZoneSet.stored_eq_iff r.storable_zones h]
  simp

theorem of_update? {r r' : Row} {t : Transition} {policy : PriorityPolicy}
    (h : r.update? t policy = some r') :
    r' = r.change t.kind (ZoneSet.ofList t.listedZones).stored policy := by
  unfold update? at h
  by_cases hsame : r.zones.stored = (ZoneSet.ofList t.listedZones).stored
  · simp [hsame] at h
  · simp only [hsame, if_false, Option.some.injEq] at h
    exact h.symm

/-- A transition that was decided for a row is applied to it and never skipped. -/
theorem update?_transition {r : Row} {s : IpState} {seen : List Observation}
    (hs : r.state? = some s) (hseen : (Observation.listed seen).Storable)
    (hne : Observation.listed seen ≠ r.zones) (policy : PriorityPolicy) :
    r.update? (s.transition seen) policy =
      some (r.change (.between r.zones (Observation.listed seen))
        (Observation.listed seen).stored policy) := by
  have hzones : ZoneSet.ofList (s.transition seen).listedZones = Observation.listed seen :=
    ZoneSet.ofList_toList _
  cases hupdate : r.update? (s.transition seen) policy with
  | none =>
    have hsame := (update?_eq_none_iff (by rw [hzones]; exact hseen)).1 hupdate
    rw [hzones] at hsame
    exact absurd hsame.symm hne
  | some r' =>
    obtain ⟨-, hlisted, -⟩ := of_state? hs
    rw [of_update? hupdate, IpState.kind_transition, hzones, hlisted]

end Row

end BlocklistWatch
