import Mathlib.Data.List.Induction
import BlocklistWatch.Proofs.Store.Update

/-!
# The priority to return to

A row that becomes listed is throttled and keeps its priority aside; when it becomes clean the kept
priority comes back. Over any history of rounds, whatever the lists say and whatever the policies of
the rounds are, the kept priority is that of the clean row at the beginning.

* `Row.afterRounds` is the row after some rounds, each of which decides and applies a transition.
* `Row.Keeps` is the invariant: what a row holds, by its first priority and by the round in which it
  became listed. `Row.Keeps.afterRound` is one round, `Row.keeps_afterRounds` a whole history.
* `Row.priority_kept` says what the row holds after every round.
-/

namespace BlocklistWatch

/-- One round: what the lists say about the address and the policy in force. -/
structure Round where
  seen : List Observation
  policy : PriorityPolicy

def Round.listed (round : Round) : ZoneSet :=
  Observation.listed round.seen

/-- The row after a round: what it records is compared with what the lists say, and the transition
that this calls for, if any, is applied. -/
def Row.afterRound (row : Row) (round : Round) : Row :=
  match row.state? with
  | none => row
  | some s =>
    match s.decide round.seen with
    | none => row
    | some t => (row.update? t round.policy).getD row

def Row.afterRounds (row : Row) (rounds : List Round) : Row :=
  rounds.foldl Row.afterRound row

/-! ## The round in which a row became listed -/

/-- The round in which the row became listed, none while it is clean, after one more round. -/
def Round.onsetAfter (before : Option Round) (round : Round) : Option Round :=
  if round.listed.isEmpty then none else some (before.getD round)

theorem Round.onsetAfter_of_isEmpty {round : Round} (h : round.listed.isEmpty = true)
    (before : Option Round) : onsetAfter before round = none :=
  if_pos h

theorem Round.onsetAfter_of_not_isEmpty {round : Round} (h : round.listed.isEmpty = false)
    (before : Option Round) : onsetAfter before round = some (before.getD round) := by
  unfold onsetAfter
  rw [h]
  rfl

/-- The round in which the row became listed, none if it is clean after the rounds. -/
def Round.onset? (rounds : List Round) : Option Round :=
  rounds.foldl Round.onsetAfter none

theorem Round.onset?_concat (rounds : List Round) (last : Round) :
    onset? (rounds ++ [last]) = onsetAfter (onset? rounds) last := by
  rw [onset?, List.foldl_append]
  rfl

theorem Round.onset?_eq_none {rounds : List Round} (h : onset? rounds = none) :
    ∀ last ∈ rounds.getLast?, last.listed.isEmpty = true := by
  induction rounds using List.reverseRecOn with
  | nil => simp
  | append_singleton rounds r =>
    intro last hlast
    have hr : r = last := by simpa using hlast
    subst hr
    by_contra hlisted
    rw [onset?_concat, onsetAfter_of_not_isEmpty (by simpa using hlisted)] at h
    exact Option.some_ne_none _ h

theorem Round.of_onset? {rounds : List Round} {o : Round} (h : onset? rounds = some o) :
    ∃ before after, rounds = before ++ o :: after ∧
      (∀ r ∈ before.getLast?, r.listed.isEmpty = true) ∧
      ∀ r ∈ o :: after, r.listed.isEmpty = false := by
  induction rounds using List.reverseRecOn with
  | nil => exact absurd h (Option.some_ne_none o).symm
  | append_singleton rounds last ih =>
    rw [onset?_concat] at h
    cases hlast : last.listed.isEmpty with
    | true =>
      rw [onsetAfter_of_isEmpty hlast] at h
      exact absurd h (Option.some_ne_none o).symm
    | false =>
      rw [onsetAfter_of_not_isEmpty hlast, Option.some.injEq] at h
      cases hbefore : onset? rounds with
      | none =>
        rw [hbefore] at h
        subst h
        refine ⟨rounds, [], rfl, onset?_eq_none hbefore, fun r hr => ?_⟩
        rw [List.mem_singleton.1 hr]
        exact hlast
      | some first =>
        rw [hbefore] at h
        subst h
        obtain ⟨before, after, hsplit, hclean, hlisted⟩ := ih hbefore
        refine ⟨before, after ++ [last], by rw [hsplit]; simp, hclean, fun r hr => ?_⟩
        rcases List.mem_append.1 (List.cons_append ▸ hr) with hr | hr
        · exact hlisted r hr
        · rw [List.mem_singleton.1 hr]
          exact hlast

/-! ## One round -/

namespace Row

theorem zones_eq_of_isEmpty {s t : ZoneSet} (hs : s.isEmpty = true) (ht : t.isEmpty = true) :
    s = t := by
  have hs := ZoneSet.isEmpty_iff.1 hs
  have ht := ZoneSet.isEmpty_iff.1 ht
  refine ZoneSet.ext_mem fun z => ?_
  rw [← ZoneSet.mem_toList, ← ZoneSet.mem_toList, hs, ht]

theorem afterRound_eq {row : Row} {round : Round} (husable : row.state?.isSome)
    (hround : round.listed.Storable) :
    row.afterRound round =
      if round.listed = row.zones then row
      else row.change (.between row.zones round.listed) round.listed.stored round.policy := by
  obtain ⟨s, hs⟩ := Option.isSome_iff_exists.1 husable
  obtain ⟨-, hlisted, -⟩ := of_state? hs
  unfold afterRound
  by_cases hsame : round.listed = row.zones
  · have hnone : s.decide round.seen = none :=
      IpState.decide_eq_none_iff.2 (hsame.trans hlisted.symm)
    simp only [hs, hnone, if_pos hsame]
  · have hsome : s.decide round.seen = some (s.transition round.seen) :=
      IpState.decide_eq_some_iff.2 ⟨fun h => hsame (h.trans hlisted), rfl⟩
    have hupdate := update?_transition hs hround hsame round.policy
    simp only [hs, hsome, hupdate, if_neg hsame, Option.getD_some]
    rfl

/-- What a row holds: `first` is the priority it had when it was clean, `onset` the round in which
it became listed. -/
structure Keeps (first : UInt8) (onset : Option Round) (row : Row) : Prop where
  usable : row.state?.isSome
  listed : row.zones.isEmpty = onset.isNone
  backup : row.oldPriority = onset.map fun _ => first
  clean : onset = none → row.effectivePriority = first
  throttled : ∀ o, onset = some o → row.priority = some o.policy.listed

theorem zones_afterRound {row : Row} {round : Round} (husable : row.state?.isSome)
    (hround : round.listed.Storable) : (row.afterRound round).zones = round.listed := by
  rw [afterRound_eq husable hround]
  by_cases hsame : round.listed = row.zones
  · rw [if_pos hsame, hsame]
  · rw [if_neg hsame, zones_change hround]

theorem Keeps.of_same {first : UInt8} {onset : Option Round} {row : Row} {round : Round}
    (h : row.Keeps first onset) (hsame : round.listed = row.zones) :
    row.Keeps first (Round.onsetAfter onset round) := by
  have hempty : round.listed.isEmpty = onset.isNone := by rw [hsame, h.listed]
  cases onset with
  | none =>
    rw [Round.onsetAfter_of_isEmpty hempty]
    exact h
  | some o =>
    rw [Round.onsetAfter_of_not_isEmpty hempty]
    exact h

/-- A round that calls for a transition. The cases are its kinds: the kept priority is set on the
way from clean to listed, cleared on the way back, and not touched in between. -/
theorem Keeps.of_change {first : UInt8} {onset : Option Round} {row : Row} {round : Round}
    (h : row.Keeps first onset) (hround : round.listed.Storable)
    (hne : round.listed ≠ row.zones) :
    (row.change (.between row.zones round.listed) round.listed.stored round.policy).Keeps first
      (Round.onsetAfter onset round) := by
  have husable := h.usable
  rw [← isSome_state?_change row (.between row.zones round.listed) round.listed.stored
    round.policy] at husable
  have hzones := zones_change hround row (.between row.zones round.listed) round.policy
  cases hnow : round.listed.isEmpty with
  | true =>
    have hbefore : row.zones.isEmpty = false := by
      by_contra hbefore
      exact hne (zones_eq_of_isEmpty hnow (by simpa using hbefore))
    have hkind : TransitionKind.between row.zones round.listed = .recovery := by
      simp [TransitionKind.between, hbefore, hnow]
    obtain ⟨o, rfl⟩ : ∃ o, onset = some o := by
      rw [h.listed, Option.isNone_eq_false_iff, Option.isSome_iff_exists] at hbefore
      exact hbefore
    have hbackup : row.oldPriority = some first := h.backup
    rw [Round.onsetAfter_of_isEmpty hnow]
    refine ⟨husable, by rw [hzones, hnow]; rfl, ?_, fun _ => ?_, fun o ho => nomatch ho⟩
    · rw [hkind]
      rfl
    · rw [hkind]
      simp [effectivePriority, change, hbackup]
  | false =>
    rw [Round.onsetAfter_of_not_isEmpty hnow]
    cases onset with
    | none =>
      have hbefore : row.zones.isEmpty = true := h.listed
      have hkind : TransitionKind.between row.zones round.listed = .firstListing := by
        simp [TransitionKind.between, hbefore]
      have hbackup : row.oldPriority = none := h.backup
      refine ⟨husable, by rw [hzones, hnow]; rfl, ?_, (fun ho => nomatch ho), fun o ho => ?_⟩
      · rw [hkind]
        simp [change, hbackup, h.clean rfl]
      · cases ho
        rw [hkind]
        rfl
    | some o =>
      have hbefore : row.zones.isEmpty = false := h.listed
      have hkind : TransitionKind.between row.zones round.listed = .zoneChange := by
        simp [TransitionKind.between, hbefore, hnow]
      refine ⟨husable, by rw [hzones, hnow]; rfl, ?_, (fun ho => nomatch ho), fun o' ho => ?_⟩
      · rw [hkind]
        exact h.backup
      · rw [hkind]
        exact h.throttled o' ho

theorem Keeps.afterRound {first : UInt8} {onset : Option Round} {row : Row} {round : Round}
    (h : row.Keeps first onset) (hround : round.listed.Storable) :
    (row.afterRound round).Keeps first (Round.onsetAfter onset round) := by
  rw [afterRound_eq h.usable hround]
  by_cases hsame : round.listed = row.zones
  · rw [if_pos hsame]
    exact h.of_same hsame
  · rw [if_neg hsame]
    exact h.of_change hround hsame

/-! ## Whole histories -/

theorem afterRounds_concat (row : Row) (rounds : List Round) (last : Round) :
    row.afterRounds (rounds ++ [last]) = (row.afterRounds rounds).afterRound last := by
  rw [afterRounds, List.foldl_append, List.foldl_cons, List.foldl_nil, afterRounds]

theorem keeps_afterRounds {row : Row} (husable : row.state?.isSome)
    (hclean : row.zones.isEmpty = true) (hbackup : row.oldPriority = none) (rounds : List Round)
    (hrounds : ∀ r ∈ rounds, r.listed.Storable) :
    (row.afterRounds rounds).Keeps row.effectivePriority (Round.onset? rounds) := by
  induction rounds using List.reverseRecOn with
  | nil => exact ⟨husable, hclean, hbackup, fun _ => rfl, fun o ho => nomatch ho⟩
  | append_singleton rounds last ih =>
    rw [afterRounds_concat, Round.onset?_concat]
    exact (ih fun r hr => hrounds r (by simp [hr])).afterRound (hrounds last (by simp))

/-- After every round of a row that was clean at first: it records the zones that say yes in the
round; a priority is kept just while there are such zones, and it is the first one; while listed the
row has the priority of the policy of the round in which it became listed, whatever came later; and
clean again it has its first priority. A transition that is decided is never skipped. -/
theorem priority_kept (row : Row) (husable : row.state?.isSome) (hclean : row.zones.isEmpty = true)
    (hbackup : row.oldPriority = none) (rounds : List Round) (last : Round)
    (hrounds : ∀ r ∈ rounds ++ [last], r.listed.Storable) :
    let first : UInt8 := row.priority.getD 100
    let before := row.afterRounds rounds
    let now := row.afterRounds (rounds ++ [last])
    now.state?.isSome ∧ now.zones = last.listed ∧
      (now.oldPriority.isSome ↔ last.listed.isEmpty = false) ∧
      (last.listed.isEmpty = true → now.priority.getD 100 = first) ∧
      (last.listed.isEmpty = false → now.oldPriority = some first ∧
        ∃ earlier onset later, rounds ++ [last] = earlier ++ onset :: later ∧
          (∀ r ∈ earlier.getLast?, r.listed.isEmpty = true) ∧
          (∀ r ∈ onset :: later, r.listed.isEmpty = false) ∧
          now.priority = some onset.policy.listed) ∧
      ∀ s t, before.state? = some s → s.decide last.seen = some t →
        (before.update? t last.policy).isSome := by
  intro first before now
  have hlast : last.listed.Storable := hrounds last (by simp)
  have hbefore : before.Keeps first (Round.onset? rounds) :=
    keeps_afterRounds husable hclean hbackup rounds fun r hr => hrounds r (by simp [hr])
  have hnow : now.Keeps first (Round.onset? (rounds ++ [last])) :=
    keeps_afterRounds husable hclean hbackup (rounds ++ [last]) hrounds
  have hzones : now.zones = last.listed := by
    rw [show now = before.afterRound last from afterRounds_concat row rounds last]
    exact zones_afterRound hbefore.usable hlast
  have hempty : last.listed.isEmpty = (Round.onset? (rounds ++ [last])).isNone := by
    rw [← hzones, hnow.listed]
  refine ⟨hnow.usable, hzones, ?_, ?_, ?_, ?_⟩
  · rw [hnow.backup, hempty]
    simp
  · intro hnone
    rw [hempty, Option.isNone_iff_eq_none] at hnone
    exact hnow.clean hnone
  · intro hsome
    rw [hempty, Option.isNone_eq_false_iff, Option.isSome_iff_exists] at hsome
    obtain ⟨onset, honset⟩ := hsome
    refine ⟨by rw [hnow.backup, honset]; rfl, ?_⟩
    obtain ⟨earlier, later, hsplit, hclean, hlisted⟩ := Round.of_onset? honset
    exact ⟨earlier, onset, later, hsplit, hclean, hlisted, hnow.throttled onset honset⟩
  · intro s t hs ht
    obtain ⟨hne, rfl⟩ := IpState.decide_eq_some_iff.1 ht
    obtain ⟨-, hlisted, -⟩ := of_state? hs
    rw [hlisted] at hne
    rw [update?_transition hs hlast hne]
    rfl

/-- A row without a priority that becomes listed under one policy and moves to another list under
another one. -/
theorem priority_kept_on_other_zones :
    let row : Row := ⟨1, "192.0.2.25", none, none, some " ,", none, []⟩
    let listing : Round := ⟨[⟨"b.example", .listed⟩, ⟨"a.example", .unknown⟩], ⟨5, 50⟩⟩
    let moving : Round := ⟨[⟨"b.example", .notListed⟩, ⟨"a.example", .listed⟩], ⟨7, 60⟩⟩
    (row.state?.isSome ∧ row.zones.isEmpty = true ∧ row.oldPriority = none ∧
      ∀ r ∈ [listing] ++ [moving], r.listed.Storable) ∧
      (row.afterRounds ([listing] ++ [moving])).zones = moving.listed ∧
      (row.afterRounds ([listing] ++ [moving])).oldPriority = some 100 := by
  intro row listing moving
  have husable : row.state?.isSome := by decide
  have hclean : row.zones.isEmpty = true := by decide
  have hrounds : ∀ r ∈ [listing] ++ [moving], r.listed.Storable := by decide
  obtain ⟨-, hzones, -, -, hkept, -⟩ :=
    priority_kept row husable hclean rfl [listing] moving hrounds
  exact ⟨⟨husable, hclean, rfl, hrounds⟩, hzones, (hkept (by decide)).1⟩

end Row

end BlocklistWatch
