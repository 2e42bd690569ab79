import BlocklistWatch.Proofs.Zone.Stored
import BlocklistWatch.Transition

/-!
# What a decision says

Which zones listed an address before and which list it now settle the decision: nothing if they are
the same, and otherwise a transition to the zones of now, of a kind that only the emptiness of the
two sets matters for.

* `IpState.transition` is the transition to what the lists say now, and `IpState.decide_eq` says that
  it is decided just when the sets differ.
* `TransitionKind.between` is the kind of a step from one set to another, `IpState.kind_transition`
  says that the transition has it.
-/

namespace BlocklistWatch

namespace Observation

/-- The zones that say yes. -/
abbrev listed (seen : List Observation) : ZoneSet :=
  zonesWith .listed seen

end Observation

def TransitionKind.between (before now : ZoneSet) : TransitionKind :=
  if before.isEmpty then .firstListing
  else if now.isEmpty then .recovery
  else .zoneChange

namespace IpState

def transition (s : IpState) (seen : List Observation) : Transition where
  ip := s.address
  previous := s.listing
  next := .ofZones (Observation.listed seen)
  listedZones := (Observation.listed seen).toList
  unknownZones := (Observation.zonesWith .unknown seen).toList
  delta := .between s.listedZones (Observation.listed seen)
  requiresUpdate := true

/-- The comparison of the listing states adds nothing to that of the zones. -/
theorem decide_eq (s : IpState) (seen : List Observation) :
    s.decide seen =
      if Observation.listed seen = s.listedZones then none else some (s.transition seen) := by
  by_cases hsame : Observation.listed seen = s.listedZones
  · rw [if_pos hsame]
    exact if_pos ⟨congrArg ListingState.ofZones hsame.symm, hsame.symm⟩
  · rw [if_neg hsame]
    exact if_neg fun h => hsame h.2.symm

theorem decide_eq_none_iff {s : IpState} {seen : List Observation} :
    s.decide seen = none ↔ Observation.listed seen = s.listedZones := by
  rw [decide_eq]
  by_cases hsame : Observation.listed seen = s.listedZones
  · simp [hsame]
  · simp [hsame]

theorem decide_eq_some_iff {s : IpState} {seen : List Observation} {t : Transition} :
    s.decide seen = some t ↔ Observation.listed seen ≠ s.listedZones ∧ t = s.transition seen := by
  rw [decide_eq]
  by_cases hsame : Observation.listed seen = s.listedZones
  · simp [hsame]
  · simp [hsame, eq_comm]

theorem kind_transition (s : IpState) (seen : List Observation) :
    (s.transition seen).kind = .between s.listedZones (Observation.listed seen) := by
  unfold Transition.kind TransitionKind.between transition listing ListingState.ofZones
  by_cases hbefore : s.listedZones.isEmpty = true
  · rw [if_pos hbefore, if_pos hbefore]
  · rw [if_neg hbefore, if_neg hbefore]
    by_cases hnow : (Observation.listed seen).isEmpty = true
    · rw [if_pos hnow, if_pos hnow]
    · rw [if_neg hnow, if_neg hnow]

end IpState

end BlocklistWatch
