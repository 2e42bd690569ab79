import Mathlib.Algebra.BigOperators.Group.List.Basic
import Mathlib.Algebra.Order.BigOperators.Group.List
import Mathlib.Algebra.Order.Ring.Nat
import BlocklistWatch.Proofs.Probe.Check

/-!
# Probes as tasks that wait for a permit

Every zone has a task of its own. A task waits for one of the permits, probes its zone and gives the
permit back, also when the look-up dies; the clock of its deadline starts when it gets the permit.
Nothing is said about which task goes next, so these are all orders in which the tasks can complete.

* `Reply.poll` is what a task sees when it looks for its answer; `Prober.poll_eq` says that it sees
  how the probe ends at the time the probe takes, and nothing before.
* `Tasks.Step` is one step of the tasks, of whoever takes the results, or of the clock;
  `Tasks.TurnStep` is one that serves the tasks in turn and without delay.
* `Tasks.Sound` is kept by every step. `Tasks.Sound.progress` says that nothing gets stuck while a
  result is missing, and `Tasks.Run.bounded` that there are only so many steps.
-/

namespace BlocklistWatch

/-! ## Looking for an answer -/

def Reply.arrived? (elapsed : Nat) : Reply → Option Awaited
  | answer outcome after => if after ≤ elapsed then some (.outcome outcome) else none
  | death reason after => if after ≤ elapsed then some (.death reason) else none
  | silence => none

/-- What one sees who waits for a reply: the look-up is asked first and the deadline only then. -/
def Reply.poll (deadline elapsed : Nat) (r : Reply) : Option Awaited :=
  (r.arrived? elapsed).or (if deadline ≤ elapsed then some (.outcome .timeout) else none)

theorem Reply.arrival {deadline elapsed after : Nat} (found late : Awaited)
    (h : elapsed ≤ min after deadline) :
    (if after ≤ elapsed then some found else none).or
        (if deadline ≤ elapsed then some late else none) =
      if elapsed = min after deadline then some (if after ≤ deadline then found else late)
      else none := by
  by_cases hdue : after ≤ elapsed
  · rw [if_pos hdue, Option.some_or, if_pos (by omega), if_pos (by omega)]
  · rw [if_neg hdue, Option.none_or]
    by_cases hlate : deadline ≤ elapsed
    · rw [if_pos hlate, if_pos (by omega), if_neg (by omega)]
    · rw [if_neg hlate, if_neg (by omega)]

/-- Up to the moment at which the wait is over there is nothing to see, and then it is what waiting
comes to. -/
theorem Reply.poll_eq {deadline elapsed : Nat} {r : Reply} (h : elapsed ≤ r.wait deadline) :
    r.poll deadline elapsed =
      if elapsed = r.wait deadline then some (r.await deadline) else none := by
  cases r with
  | answer outcome after => exact arrival (.outcome outcome) (.outcome .timeout) h
  | death reason after => exact arrival (.death reason) (.outcome .timeout) h
  | silence =>
    simp only [wait, due?, Option.getD_none, Nat.min_self] at h ⊢
    simp only [poll, arrived?, await, Option.none_or]
    by_cases hlate : deadline ≤ elapsed
    · rw [if_pos hlate, if_pos (by omega)]
    · rw [if_neg hlate, if_neg (by omega)]

/-- What the task of a zone sees of its probe some time after it got its permit. -/
def Prober.poll (p : Prober) (ip : Ipv4) (zone : String) (elapsed : Nat) : Option ProbeEnd :=
  match probeQuery ip zone with
  | .error e => some (.finding (.unknown ip zone .unknownError e.message))
  | .ok query =>
    ((p.lookup zone query).poll p.timeout elapsed).map fun
      | .outcome o => .finding (.ofOutcome ip zone o)
      | .death reason => .death reason

theorem Prober.poll_eq {p : Prober} {ip : Ipv4} {zone : String} {elapsed : Nat}
    (h : elapsed ≤ p.duration ip zone) :
    p.poll ip zone elapsed =
      if elapsed = p.duration ip zone then some (p.probe ip zone) else none := by
  unfold poll duration probe at *
  cases hquery : probeQuery ip zone with
  | error e =>
    rw [hquery] at h
    rw [if_pos (Nat.le_zero.1 h)]
  | ok query =>
    rw [hquery] at h
    simp only [Reply.poll_eq h]
    by_cases hnow : elapsed = (p.lookup zone query).wait p.timeout
    · rw [if_pos hnow, if_pos hnow]
      refine congrArg some ?_
      cases (p.lookup zone query).await p.timeout <;> rfl
    · rw [if_neg hnow, if_neg hnow, Option.map_none]

/-! ## The tasks of one check -/

/-- A permit in the hand of the task of a zone, and when the task got it. -/
structure Permit where
  zone : String
  since : Nat
deriving DecidableEq

/-- How far the tasks of a check have come. -/
structure Tasks where
  now : Nat
  waiting : List String
  held : List Permit
  check : Check

namespace Tasks

def start (tracker : Option HealthTracker) (zones : List String) : Tasks :=
  ⟨0, zones, [], Check.start tracker zones⟩

def poll (s : Tasks) (p : Prober) (ip : Ipv4) (permit : Permit) : Option ProbeEnd :=
  p.poll ip permit.zone (s.now - permit.since)

/-- One step of a check with at most `limit` probes at once, where no limit is less than one. -/
inductive Step (p : Prober) (ip : Ipv4) (limit : Nat) : Tasks → Tasks → Prop
  /-- A task gets a permit that is free. -/
  | grant {s : Tasks} {zone : String} :
      zone ∈ s.waiting → s.held.length < max limit 1 →
      Step p ip limit s
        { s with waiting := s.waiting.erase zone, held := ⟨zone, s.now⟩ :: s.held }
  /-- A probe ends, or its look-up dies, and the permit is free again. -/
  | finish {s : Tasks} {permit : Permit} {left : ProbeEnd} :
      permit ∈ s.held → s.poll p ip permit = some left →
      Step p ip limit s
        { s with
          held := s.held.erase permit
          check := s.check.finish (fun _ => left) permit.zone }
  /-- The next result is taken. -/
  | take {s : Tasks} : ¬ s.check.Idle → Step p ip limit s { s with check := s.check.take ip }
  /-- Time passes while no task has anything to see. A clock that moved while no probe is under way
  would change nothing that any task sees. -/
  | pass {s : Tasks} :
      s.held ≠ [] → (∀ permit ∈ s.held, s.poll p ip permit = none) →
      Step p ip limit s { s with now := s.now + 1 }
  /-- After a refusal a task is called off before it got a permit. -/
  | callOffWaiting {s : Tasks} {zone : String} :
      s.check.refusal.isSome = true → zone ∈ s.waiting →
      Step p ip limit s { s with waiting := s.waiting.erase zone }
  /-- After a refusal a task is called off in the middle of its probe. -/
  | callOffHeld {s : Tasks} {permit : Permit} :
      s.check.refusal.isSome = true → permit ∈ s.held →
      Step p ip limit s { s with held := s.held.erase permit }

inductive Run (p : Prober) (ip : Ipv4) (limit : Nat) (s₀ : Tasks) : Nat → Tasks → Prop
  | start : Run p ip limit s₀ 0 s₀
  | step {n : Nat} {s s' : Tasks} :
      Run p ip limit s₀ n s → Step p ip limit s s' → Run p ip limit s₀ (n + 1) s'

/-! ## Served in turn -/

/-- A step of tasks that are served in turn: a permit goes to the head of the queue, and no time
passes while a permit is free that a task waits for. -/
structure TurnStep (p : Prober) (ip : Ipv4) (limit : Nat) (s s' : Tasks) : Prop where
  step : Step p ip limit s s'
  inTurn : ∀ zone, s'.held = ⟨zone, s.now⟩ :: s.held → s.waiting.head? = some zone
  prompt : s.now < s'.now → s.waiting = [] ∨ max limit 1 ≤ s.held.length

inductive TurnRun (p : Prober) (ip : Ipv4) (limit : Nat) (s₀ : Tasks) : Nat → Tasks → Prop
  | start : TurnRun p ip limit s₀ 0 s₀
  | step {n : Nat} {s s' : Tasks} :
      TurnRun p ip limit s₀ n s → TurnStep p ip limit s s' → TurnRun p ip limit s₀ (n + 1) s'

theorem TurnRun.run {p : Prober} {ip : Ipv4} {limit n : Nat} {s₀ s : Tasks}
    (h : TurnRun p ip limit s₀ n s) : Run p ip limit s₀ n s := by
  induction h with
  | start => exact .start
  | step _ hstep ih => exact .step ih hstep.step

/-- A step that gives out no permit and does not move the clock is in turn. -/
theorem TurnStep.of_step {p : Prober} {ip : Ipv4} {limit : Nat} {s s' : Tasks}
    (hstep : Step p ip limit s s') (hheld : s'.held.length ≤ s.held.length)
    (hnow : s'.now = s.now) : TurnStep p ip limit s s' := by
  refine ⟨hstep, fun zone hgrant => ?_, fun hlater => ?_⟩
  · rw [hgrant, List.length_cons] at hheld
    omega
  · omega

/-! ## What every step keeps -/

/-- Tasks whose check is sound, none of whose probes was overlooked when it was over, and no zone of
which was lost. -/
structure Sound (p : Prober) (ip : Ipv4) (tracker : Option HealthTracker) (zones : List String)
    (s : Tasks) : Prop where
  check : s.check.Sound p ip tracker zones
  waiting : ∀ zone ∈ s.waiting, zone ∈ zones
  held : ∀ permit ∈ s.held, permit.zone ∈ zones ∧
    s.now - permit.since ≤ p.duration ip permit.zone ∧ permit.since ≤ s.now
  present : s.check.refusal = none → ∀ zone ∈ zones,
    zone ∈ s.waiting ∨ (∃ permit ∈ s.held, permit.zone = zone) ∨
      (s.check.ended? zone).isSome = true

variable {p : Prober} {ip : Ipv4} {limit : Nat} {tracker : Option HealthTracker}
  {zones : List String} {s s' : Tasks}

theorem sound_start (p : Prober) (ip : Ipv4) (tracker : Option HealthTracker)
    (zones : List String) : (start tracker zones).Sound p ip tracker zones := by
  refine ⟨Check.sound_start p ip tracker zones, fun zone h => h, ?_, fun _ zone h => .inl h⟩
  intro permit h
  exact absurd h (by simp [start])

theorem Sound.poll_eq_some (h : s.Sound p ip tracker zones) {permit : Permit}
    (hheld : permit ∈ s.held) {left : ProbeEnd} (hpoll : s.poll p ip permit = some left) :
    left = p.probe ip permit.zone := by
  obtain ⟨-, hintime, -⟩ := h.held permit hheld
  rw [poll, Prober.poll_eq hintime] at hpoll
  by_cases hnow : s.now - permit.since = p.duration ip permit.zone
  · rw [if_pos hnow] at hpoll
    exact (Option.some.inj hpoll).symm
  · rw [if_neg hnow] at hpoll
    exact absurd hpoll (by simp)

theorem Sound.poll_eq_none (h : s.Sound p ip tracker zones) {permit : Permit}
    (hheld : permit ∈ s.held) (hpoll : s.poll p ip permit = none) :
    s.now - permit.since < p.duration ip permit.zone := by
  obtain ⟨-, hintime, -⟩ := h.held permit hheld
  rw [poll, Prober.poll_eq hintime] at hpoll
  by_cases hnow : s.now - permit.since = p.duration ip permit.zone
  · rw [if_pos hnow] at hpoll
    exact absurd hpoll (by simp)
  · omega

theorem Sound.step (h : s.Sound p ip tracker zones) (hnodup : ∀ t ∈ tracker, t.zones.Nodup)
    (hdistinct : zones.Nodup) (hstep : Step p ip limit s s') : s'.Sound p ip tracker zones := by
  cases hstep with
  | @grant zone hwaiting hfree =>
    refine ⟨h.check, fun z hz => h.waiting z (List.mem_of_mem_erase hz), ?_, ?_⟩
    · intro permit hpermit
      rcases List.mem_cons.1 hpermit with rfl | hpermit
      · exact ⟨h.waiting zone hwaiting, by simp, Nat.le_refl _⟩
      · exact h.held permit hpermit
    · intro hrefusal z hz
      rcases h.present hrefusal z hz with hz' | ⟨permit, hpermit, rfl⟩ | hended
      · by_cases hsame : z = zone
        · exact .inr (.inl ⟨_, List.mem_cons_self .., hsame.symm⟩)
        · exact .inl ((List.mem_erase_of_ne hsame).2 hz')
      · exact .inr (.inl ⟨permit, List.mem_cons_of_mem _ hpermit, rfl⟩)
      · exact .inr (.inr hended)
  | @finish permit left hheld hpoll =>
    obtain rfl := h.poll_eq_some hheld hpoll
    have hframe := s.check.finish_frame (p.probe ip) permit.zone
    refine ⟨h.check.finish hnodup (h.held permit hheld).1, h.waiting, ?_, ?_⟩
    · exact fun other hother => h.held other (List.mem_of_mem_erase hother)
    · intro hrefusal z hz
      have hended := s.check.isSome_ended?_finish (p.probe ip) permit.zone z
      rcases h.present (hframe.2.2.symm.trans hrefusal) z hz with hz' | ⟨other, hother, rfl⟩ | hz'
      · exact .inl hz'
      · by_cases hsame : other = permit
        · subst hsame
          exact .inr (.inr (hended.trans (by simp)))
        · exact .inr (.inl ⟨other, (List.mem_erase_of_ne hsame).2 hother, rfl⟩)
      · exact .inr (.inr (hended.trans (by simp [hz'])))
  | take hready =>
    refine ⟨h.check.take hnodup hdistinct, h.waiting, h.held, fun hrefusal z hz => ?_⟩
    have hended := Check.ended?_of_ended_eq (s.check.ended_take ip) z
    rcases h.present (Check.refusal_of_take hrefusal) z hz with hz' | hz' | hz'
    · exact .inl hz'
    · exact .inr (.inl hz')
    · exact .inr (.inr (by rw [hended]; exact hz'))
  | pass hheld hnone =>
    refine ⟨h.check, h.waiting, fun permit hpermit => ?_, h.present⟩
    obtain ⟨hzone, -, hsince⟩ := h.held permit hpermit
    have hearly := h.poll_eq_none hpermit (hnone permit hpermit)
    refine ⟨hzone, ?_, by simp only; omega⟩
    simp only
    omega
  | @callOffWaiting zone hrefusal hwaiting =>
    refine ⟨h.check, fun z hz => h.waiting z (List.mem_of_mem_erase hz), h.held, fun hnone => ?_⟩
    rw [hnone] at hrefusal
    exact absurd hrefusal (by simp)
  | @callOffHeld permit hrefusal hheld =>
    refine ⟨h.check, h.waiting, fun other hother => h.held other (List.mem_of_mem_erase hother),
      fun hnone => ?_⟩
    rw [hnone] at hrefusal
    exact absurd hrefusal (by simp)

theorem Run.sound {s₀ : Tasks} {n : Nat} (hrun : Run p ip limit s₀ n s)
    (h : s₀.Sound p ip tracker zones) (hnodup : ∀ t ∈ tracker, t.zones.Nodup)
    (hdistinct : zones.Nodup) : s.Sound p ip tracker zones := by
  induction hrun with
  | start => exact h
  | step _ hstep ih => exact ih.step hnodup hdistinct hstep

/-! ## Nothing gets stuck -/

/-- While the next result was not taken some step is possible, also if tasks are served in turn. -/
theorem Sound.progress_inTurn (h : s.Sound p ip tracker zones) (hrefusal : s.check.refusal = none)
    (hawaited : s.check.awaited ≠ []) : ∃ s', TurnStep p ip limit s s' := by
  by_cases hidle : s.check.Idle
  · by_cases hnone : ∀ permit ∈ s.held, s.poll p ip permit = none
    · by_cases hfree : s.waiting ≠ [] ∧ s.held.length < max limit 1
      · obtain ⟨zone, rest, hrest⟩ := List.exists_cons_of_ne_nil hfree.1
        have hzone : zone ∈ s.waiting := by simp [hrest]
        refine ⟨_, .grant hzone hfree.2, fun z hgrant => ?_, fun hlater => ?_⟩
        · have hpermit : (⟨zone, s.now⟩ : Permit) = ⟨z, s.now⟩ := (List.cons.inj hgrant).1
          rw [hrest, List.head?_cons, (Permit.mk.inj hpermit).1]
        · exact absurd hlater (Nat.lt_irrefl _)
      · have hbusy : s.waiting = [] ∨ max limit 1 ≤ s.held.length := by
          by_cases hwaiting : s.waiting = []
          · exact .inl hwaiting
          · exact .inr (Nat.le_of_not_lt fun hless => hfree ⟨hwaiting, hless⟩)
        have hheld : s.held ≠ [] := by
          intro hnil
          -- No task waits and none has a permit, so the probe that is awaited has ended.
          have hwaiting : s.waiting = [] := by
            rcases hbusy with hwaiting | hmany
            · exact hwaiting
            · rw [hnil, List.length_nil] at hmany
              omega
          obtain ⟨zone, rest, hrest⟩ := List.exists_cons_of_ne_nil hawaited
          have hzone : zone ∈ zones := by
            obtain ⟨done, hzones, -⟩ := h.check.taken
            rw [hzones, hrest]
            simp
          rcases h.present hrefusal zone hzone with hmem | ⟨permit, hmem, -⟩ | hended
          · exact absurd (hwaiting ▸ hmem) List.not_mem_nil
          · exact absurd (hnil ▸ hmem) List.not_mem_nil
          · rw [hidle hrefusal zone rest hrest] at hended
            exact absurd hended (by simp)
        refine ⟨_, .pass hheld hnone, fun zone hgrant => ?_, fun _ => hbusy⟩
        have hlength := congrArg List.length hgrant
        simp at hlength
    · simp only [not_forall] at hnone
      obtain ⟨permit, hpermit, hpoll⟩ := hnone
      obtain ⟨left, hleft⟩ := Option.ne_none_iff_exists'.1 hpoll
      exact ⟨_, .of_step (.finish hpermit hleft) List.length_erase_le rfl⟩
  · exact ⟨_, .of_step (.take hidle) (Nat.le_refl _) rfl⟩

theorem Sound.progress (h : s.Sound p ip tracker zones) (hrefusal : s.check.refusal = none)
    (hawaited : s.check.awaited ≠ []) : ∃ s', Step p ip limit s s' := by
  obtain ⟨s', hstep⟩ : ∃ s', TurnStep p ip limit s s' := h.progress_inTurn hrefusal hawaited
  exact ⟨s', hstep.step⟩

/-! ## Nothing goes on for ever -/

def untaken (c : Check) : Nat :=
  if c.refusal.isSome then 0 else c.awaited.length + 1

/-- The steps that are left at most: a waiting task can get its permit, let the time of its probe pass
and end, and a task with a permit the last two. -/
def fuel (p : Prober) (ip : Ipv4) (s : Tasks) : Nat :=
  (s.waiting.map fun zone => p.duration ip zone + 2).sum +
    (s.held.map fun permit => permit.since + p.duration ip permit.zone - s.now + 1).sum +
    untaken s.check

theorem untaken_take {c : Check} (h : ¬ c.Idle) (ip : Ipv4) :
    untaken (c.take ip) < untaken c := by
  obtain ⟨hrefusal, htaken⟩ := c.take_of_not_idle h ip
  unfold untaken
  rw [hrefusal]
  rcases htaken with hrefused | hlength
  · rw [if_pos hrefused, Option.isSome_none, if_neg Bool.false_ne_true]
    exact Nat.succ_pos _
  · rw [Option.isSome_none, if_neg Bool.false_ne_true]
    split <;> omega

theorem untaken_finish (c : Check) (probe : String → ProbeEnd) (zone : String) :
    untaken (c.finish probe zone) = untaken c := by
  obtain ⟨hawaited, -, hrefusal⟩ := c.finish_frame probe zone
  rw [untaken, untaken, hawaited, hrefusal]

theorem Sound.fuel_step (h : s.Sound p ip tracker zones) (hstep : Step p ip limit s s') :
    s'.fuel p ip < s.fuel p ip := by
  cases hstep with
  | @grant zone hwaiting hfree =>
    have herase := List.sum_map_erase (fun zone => p.duration ip zone + 2) hwaiting
    simp only [fuel, List.map_cons, List.sum_cons]
    omega
  | @finish permit left hheld hpoll =>
    have herase := List.sum_map_erase
      (fun permit : Permit => permit.since + p.duration ip permit.zone - s.now + 1) hheld
    simp only [fuel, untaken_finish]
    omega
  | take hready =>
    have hless := untaken_take hready ip
    simp only [fuel]
    omega
  | pass hheld hnone =>
    have hless : (s.held.map fun permit =>
        permit.since + p.duration ip permit.zone - (s.now + 1) + 1).sum <
        (s.held.map fun permit => permit.since + p.duration ip permit.zone - s.now + 1).sum := by
      refine List.sum_lt_sum_of_ne_nil hheld _ _ fun permit hpermit => ?_
      have hearly := h.poll_eq_none hpermit (hnone permit hpermit)
      have hsince := (h.held permit hpermit).2.2
      omega
    simp only [fuel]
    omega
  | @callOffWaiting zone hrefusal hwaiting =>
    have herase := List.sum_map_erase (fun zone => p.duration ip zone + 2) hwaiting
    simp only [fuel]
    omega
  | @callOffHeld permit hrefusal hheld =>
    have herase := List.sum_map_erase
      (fun permit : Permit => permit.since + p.duration ip permit.zone - s.now + 1) hheld
    simp only [fuel]
    omega

theorem fuel_start (p : Prober) (ip : Ipv4) (tracker : Option HealthTracker)
    (zones : List String) :
    (start tracker zones).fuel p ip ≤ zones.length * (p.timeout + 3) + 1 := by
  have hwaiting : (zones.map fun zone => p.duration ip zone + 2).sum ≤
      zones.length * (p.timeout + 2) := by
    have := List.sum_le_card_nsmul (zones.map fun zone => p.duration ip zone + 2)
      (p.timeout + 2) (by
        intro n hn
        obtain ⟨zone, -, rfl⟩ := List.mem_map.1 hn
        have := p.duration_le ip zone
        omega)
    simpa using this
  have huntaken : untaken (Check.start tracker zones) = zones.length + 1 := rfl
  have hmul : zones.length * (p.timeout + 3) = zones.length * (p.timeout + 2) + zones.length :=
    Nat.mul_succ _ _
  simp only [fuel, start, List.map_nil, List.sum_nil, huntaken]
  omega

theorem Run.bounded {n : Nat} (hrun : Run p ip limit (Tasks.start tracker zones) n s)
    (hnodup : ∀ t ∈ tracker, t.zones.Nodup) (hdistinct : zones.Nodup) :
    n ≤ zones.length * (p.timeout + 3) + 1 := by
  have hspent : n + s.fuel p ip ≤ (Tasks.start tracker zones).fuel p ip := by
    induction hrun with
    | start => omega
    | step hrun hstep ih =>
      have hsound := hrun.sound (sound_start p ip tracker zones) hnodup hdistinct
      have hless := hsound.fuel_step hstep
      omega
  have hstart := fuel_start p ip tracker zones
  omega

end Tasks

end BlocklistWatch
