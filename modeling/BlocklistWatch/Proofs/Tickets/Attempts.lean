import Mathlib.Algebra.BigOperators.Group.Finset.Basic
import Mathlib.Order.Bounds.Basic
import BlocklistWatch.Tickets.Retry

/-!
# How often a call is made

A call is made again after a failure that may pass, as long as attempts are left. So the number of
calls can be told from the outcomes that the call would have if it were made over and over: the last
call is the first one with another outcome, or the one with which the attempts are used up.

* `stateAfter` and `outcomeAt` are the call made over and over, `RetryPolicy.Passes` says which of
  its outcomes asks for a further attempt.
* `RetryPolicy.runFrom_of_not_passes`, `RetryPolicy.runFrom_of_spent` and
  `RetryPolicy.runFrom_of_left` are the three ways in which an attempt goes on.
* `RetryPolicy.Made` says what a run with a number of waits comes to, and
  `RetryPolicy.exists_made_runFrom` that each run is such.
* `RetryPolicy.RunsOver` tells the whole run over a script of outcomes, `RetryPolicy.run_over_script`
  that it goes so.
-/

namespace BlocklistWatch

variable {σ α : Type}

/-! ## A call made over and over -/

def stateAfter (call : σ → Except TicketError α × σ) : σ → Nat → σ
  | s, 0 => s
  | s, n + 1 => stateAfter call (call s).2 n

/-- The outcome of the call with the given number, counted from 0. -/
def outcomeAt (call : σ → Except TicketError α × σ) (s : σ) (n : Nat) : Except TicketError α :=
  (call (stateAfter call s n)).1

/-- The call that has one outcome of a script after another; it remembers how often it was made. -/
def scripted (script : Nat → Except TicketError α) (n : Nat) : Except TicketError α × Nat :=
  (script n, n + 1)

theorem stateAfter_scripted (script : Nat → Except TicketError α) (start n : Nat) :
    stateAfter (scripted script) start n = start + n := by
  induction n generalizing start with
  | zero => rfl
  | succ n ih =>
    rw [stateAfter, scripted, ih]
    omega

theorem outcomeAt_scripted (script : Nat → Except TicketError α) (n : Nat) :
    outcomeAt (scripted script) 0 n = script n := by
  rw [outcomeAt, stateAfter_scripted, Nat.zero_add, scripted]

namespace RetryPolicy

/-! ## Waits -/

theorem delayFor_of_lt (p : RetryPolicy) {i : Nat} (h : i < p.delays.length) :
    p.delayFor i = p.delays[i] := by
  rw [delayFor, List.getElem?_eq_getElem h]

theorem delayFor_of_le (p : RetryPolicy) {i : Nat} (h : p.delays.length ≤ i) :
    p.delayFor i = p.delays.getLast?.getD 0 := by
  rw [delayFor, List.getElem?_eq_none h]

/-- The waits after some attempts in a row, together. -/
def waited (p : RetryPolicy) (attempt n : Nat) : Nat :=
  ∑ i ∈ Finset.range n, p.delayFor (attempt + i)

theorem waited_zero (p : RetryPolicy) (attempt : Nat) : p.waited attempt 0 = 0 :=
  Finset.sum_range_zero _

theorem waited_succ (p : RetryPolicy) (attempt n : Nat) :
    p.waited attempt (n + 1) = p.delayFor attempt + p.waited (attempt + 1) n := by
  rw [waited, Finset.sum_range_succ', Nat.add_comm, Nat.add_zero, waited]
  congr 1
  exact Finset.sum_congr rfl fun i _ => congrArg p.delayFor (by omega)

/-! ## One attempt -/

/-- A failure that the policy takes for one that may pass. -/
def Passes (p : RetryPolicy) (outcome : Except TicketError α) : Prop :=
  ∃ status message, outcome = .error (.api status message) ∧ status ∈ p.statuses

theorem not_passes_ok (p : RetryPolicy) (a : α) : ¬ p.Passes (.ok a) := by
  rintro ⟨status, message, h, -⟩
  cases h

theorem passes_error_iff {p : RetryPolicy} {e : TicketError} :
    p.Passes (.error e : Except TicketError α) ↔ p.shouldRetry e = true := by
  cases e with
  | api status message => simp [Passes, shouldRetry, isRetryable]
  | _ => simp [Passes, shouldRetry]

section

variable {p : RetryPolicy} {call : σ → Except TicketError α × σ} {attempt time : Nat} {s : σ}

theorem runFrom_of_not_passes (h : ¬ p.Passes (call s).1) :
    p.runFrom call attempt time s = ⟨(call s).1, (call s).2, [time], time⟩ := by
  rw [runFrom]
  rcases hcall : call s with ⟨e | a, s'⟩
  · rw [hcall, passes_error_iff, Bool.not_eq_true] at h
    exact if_pos h
  · rfl

theorem runFrom_of_spent {e : TicketError} (he : (call s).1 = .error e)
    (h : p.Passes (call s).1) (hspent : p.maxRetries ≤ attempt) :
    p.runFrom call attempt time s =
      ⟨.error (.exhausted (attempt + 1) e), (call s).2, [time], time⟩ := by
  rw [runFrom]
  rcases hcall : call s with ⟨e' | a, s'⟩
  · rw [hcall] at he h
    obtain rfl := Except.error.inj he
    rw [passes_error_iff] at h
    simp only [h, Bool.true_eq_false, if_false, dif_pos hspent]
  · rw [hcall] at he
    cases he

theorem runFrom_of_left (h : p.Passes (call s).1) (hleft : attempt < p.maxRetries) :
    p.runFrom call attempt time s =
      let rest := p.runFrom call (attempt + 1) (time + p.delayFor attempt) (call s).2
      { rest with calledAt := time :: rest.calledAt } := by
  rw [runFrom]
  rcases hcall : call s with ⟨e | a, s'⟩
  · rw [hcall, passes_error_iff] at h
    simp only [h, Bool.true_eq_false, if_false, dif_neg (Nat.not_le.2 hleft)]
  · rw [hcall] at h
    exact absurd h (p.not_passes_ok a)

end

/-! ## All attempts -/

/-- What a run from an attempt on comes to if it waits the given number of times. -/
structure Made (p : RetryPolicy) (call : σ → Except TicketError α × σ) (attempt time : Nat) (s : σ)
    (waits : Nat) (r : Attempts σ α) : Prop where
  within : attempt + waits ≤ p.maxRetries
  passed : ∀ n < waits, p.Passes (outcomeAt call s n)
  state : r.state = stateAfter call s (waits + 1)
  calledAt : r.calledAt = (List.range (waits + 1)).map fun n => time + p.waited attempt n
  endedAt : r.endedAt = time + p.waited attempt waits
  result : ¬ p.Passes (outcomeAt call s waits) ∧ r.result = outcomeAt call s waits ∨
    attempt + waits = p.maxRetries ∧ p.Passes (outcomeAt call s waits) ∧
      ∃ e, outcomeAt call s waits = .error e ∧
        r.result = .error (.exhausted (attempt + waits + 1) e)

section

variable {p : RetryPolicy} {call : σ → Except TicketError α × σ} {attempt time : Nat} {s : σ}

/-- A run that ends with its first call. -/
theorem Made.atOnce {result : Except TicketError α} (h : attempt ≤ p.maxRetries)
    (hresult : ¬ p.Passes (call s).1 ∧ result = (call s).1 ∨
      attempt = p.maxRetries ∧ p.Passes (call s).1 ∧
        ∃ e, (call s).1 = .error e ∧ result = .error (.exhausted (attempt + 1) e)) :
    p.Made call attempt time s 0 ⟨result, (call s).2, [time], time⟩ where
  within := h
  passed n hn := absurd hn (Nat.not_lt_zero n)
  state := rfl
  calledAt := by
    rw [List.range_one, List.map_singleton, waited_zero, Nat.add_zero]
  endedAt := by
    rw [waited_zero, Nat.add_zero]
  result := hresult

/-- A wait in front of a run. -/
theorem Made.waitFirst {waits : Nat} {rest : Attempts σ α} (h : p.Passes (call s).1)
    (hrest : p.Made call (attempt + 1) (time + p.delayFor attempt) (call s).2 waits rest) :
    p.Made call attempt time s (waits + 1) { rest with calledAt := time :: rest.calledAt } where
  within := by
    have := hrest.within
    omega
  passed n hn := by
    cases n with
    | zero => exact h
    | succ n => exact hrest.passed n (by omega)
  state := hrest.state
  calledAt := by
    have hlater : ∀ n, time + p.delayFor attempt + p.waited (attempt + 1) n =
        time + p.waited attempt (n + 1) := by
      intro n
      rw [waited_succ]
      omega
    have hrange : List.range (waits + 1 + 1) = 0 :: (List.range (waits + 1)).map Nat.succ :=
      List.range_succ_eq_map
    rw [hrange, List.map_cons, List.map_map, waited_zero, hrest.calledAt]
    simp only [hlater]
    rfl
  endedAt := by
    rw [hrest.endedAt, waited_succ]
    omega
  result := by
    have hnumber : attempt + 1 + waits = attempt + (waits + 1) := by omega
    rw [← hnumber]
    exact hrest.result

/-- By induction on the attempts that are left, of which each wait uses up one. -/
theorem exists_made_runFrom (h : attempt ≤ p.maxRetries) :
    ∃ waits, p.Made call attempt time s waits (p.runFrom call attempt time s) := by
  induction hleft : p.maxRetries - attempt generalizing attempt time s with
  | zero =>
    have hspent : attempt = p.maxRetries := by omega
    refine ⟨0, ?_⟩
    by_cases hpasses : p.Passes (call s).1
    · have ⟨status, message, herror, _⟩ := hpasses
      rw [runFrom_of_spent herror hpasses (Nat.le_of_eq hspent.symm)]
      exact .atOnce h (.inr ⟨hspent, hpasses, _, herror, rfl⟩)
    · rw [runFrom_of_not_passes hpasses]
      exact .atOnce h (.inl ⟨hpasses, rfl⟩)
  | succ left ih =>
    by_cases hpasses : p.Passes (call s).1
    · have hmore : attempt < p.maxRetries := by omega
      have hlater : ∃ waits, p.Made call (attempt + 1) (time + p.delayFor attempt) (call s).2 waits
          (p.runFrom call (attempt + 1) (time + p.delayFor attempt) (call s).2) :=
        ih (by omega) (by omega)
      obtain ⟨waits, hrest⟩ := hlater
      rw [runFrom_of_left hpasses hmore]
      exact ⟨waits + 1, hrest.waitFirst hpasses⟩
    · rw [runFrom_of_not_passes hpasses]
      exact ⟨0, .atOnce h (.inl ⟨hpasses, rfl⟩)⟩

end

/-! ## Runs over scripts -/

/-- A run over a script of outcomes whose last call has the given number, counted from 0. -/
structure RunsOver (p : RetryPolicy) (script : Nat → Except TicketError α) (last : Nat)
    (r : Attempts Nat α) : Prop where
  /-- The attempts are used up or no further one is asked for, whichever comes first. -/
  least : IsLeast {n | n = p.maxRetries ∨ ¬ p.Passes (script n)} last
  asked : r.state = last + 1
  called : r.calledAt.length = last + 1
  fits : last + 1 < UInt32.size
  final : ¬ p.Passes (script last) → r.result = script last
  exhausted : p.Passes (script last) → last = p.maxRetries ∧
    ∃ e, script last = .error e ∧ r.result = .error (.exhausted (last + 1) e)
  times : ∀ k ≤ last, r.calledAt[k]? = some (∑ i ∈ Finset.range k, p.delayFor i)
  ended : r.endedAt = ∑ i ∈ Finset.range last, p.delayFor i

namespace Made

variable {p : RetryPolicy} {script : Nat → Except TicketError α} {last : Nat}
  {r : Attempts Nat α}

/-- No call before the last one would have been the last. -/
theorem isLeast (h : p.Made (scripted script) 0 0 0 last r) :
    IsLeast {n | n = p.maxRetries ∨ ¬ p.Passes (script n)} last := by
  refine ⟨?_, fun n hn => ?_⟩
  · rcases h.result with ⟨hfinal, -⟩ | ⟨hspent, -⟩
    · rw [outcomeAt_scripted] at hfinal
      exact .inr hfinal
    · exact .inl ((Nat.zero_add last).symm.trans hspent)
  · rcases hn with rfl | hfinal
    · have := h.within
      omega
    · refine Nat.not_lt.1 fun hless => hfinal ?_
      rw [← outcomeAt_scripted script n]
      exact h.passed n hless

theorem runsOver (h : p.Made (scripted script) 0 0 0 last r)
    (hretries : p.maxRetries < UInt32.size - 1) : p.RunsOver script last r where
  least := h.isLeast
  asked := by
    rw [h.state, stateAfter_scripted, Nat.zero_add]
  called := by
    rw [h.calledAt, List.length_map, List.length_range]
  fits := by
    have := h.within
    omega
  final hfinal := by
    rcases h.result with ⟨-, hresult⟩ | ⟨-, hpasses, -⟩
    · rw [hresult, outcomeAt_scripted]
    · rw [outcomeAt_scripted] at hpasses
      exact absurd hpasses hfinal
  exhausted hpasses := by
    rcases h.result with ⟨hfinal, -⟩ | ⟨hspent, -, e, herror, hresult⟩
    · rw [outcomeAt_scripted] at hfinal
      exact absurd hpasses hfinal
    · rw [outcomeAt_scripted] at herror
      rw [Nat.zero_add] at hspent hresult
      exact ⟨hspent, e, herror, hresult⟩
  times k hk := by
    rw [h.calledAt, List.getElem?_map, List.getElem?_range (by omega)]
    simp only [Option.map_some, waited, Nat.zero_add]
  ended := by
    rw [h.endedAt]
    simp only [waited, Nat.zero_add]

end Made

/-- Over any script of outcomes a run comes to an end, with the call that the outcomes tell, and
waits between the calls as the list of delays says. -/
theorem run_over_script (p : RetryPolicy) (hretries : p.maxRetries < UInt32.size - 1)
    (script : Nat → Except TicketError α) :
    (∃ last, p.RunsOver script last (p.run (scripted script) 0)) ∧
      (∀ i, (h : i < p.delays.length) → p.delayFor i = p.delays[i]) ∧
      (∀ i, (h : p.delays ≠ []) → p.delays.length ≤ i → p.delayFor i = p.delays.getLast h) ∧
      (p.delays = [] → ∀ i, p.delayFor i = 0) := by
  have hstart : ∃ last, p.Made (scripted script) 0 0 0 last (p.run (scripted script) 0) :=
    exists_made_runFrom (Nat.zero_le _)
  obtain ⟨last, hmade⟩ := hstart
  refine ⟨⟨last, hmade.runsOver hretries⟩, fun i h => p.delayFor_of_lt h, fun i h hbeyond => ?_,
    fun hnone i => ?_⟩
  · rw [p.delayFor_of_le hbeyond, List.getLast?_eq_some_getLast h, Option.getD_some]
  · rw [p.delayFor_of_le (by simp [hnone]), hnone, List.getLast?_nil, Option.getD_none]

/-- Two failures that may pass and then one that says that other attempts were used up: it is the
result itself, although attempts are left. The only delay comes twice. -/
theorem run_over_script_nested :
    let p : RetryPolicy := ⟨5, [30], [503, 404]⟩
    let nested : Except TicketError Unit := .error (.exhausted 2 (.api 503 "busy"))
    let script (n : Nat) : Except TicketError Unit :=
      if n < 2 then .error (.api 404 "gone") else nested
    let r := p.run (scripted script) 0
    r.result = nested ∧ r.state = 3 ∧ r.calledAt[2]? = some 60 ∧ r.endedAt = 60 := by
  intro p nested script r
  have hretries : p.maxRetries < UInt32.size - 1 := by decide
  obtain ⟨⟨last, hrun⟩, -⟩ := run_over_script p hretries script
  have hfinal : ¬ p.Passes nested := fun h => absurd (passes_error_iff.1 h) (by decide)
  have hleast : IsLeast {n | n = p.maxRetries ∨ ¬ p.Passes (script n)} 2 := by
    refine ⟨.inr hfinal, fun n hn => Nat.not_lt.1 fun hless => ?_⟩
    have hpasses : p.Passes (script n) := ⟨404, "gone", if_pos hless, by decide⟩
    rcases hn with rfl | hn
    · exact absurd hless (by decide)
    · exact hn hpasses
  obtain rfl := hrun.least.unique hleast
  exact ⟨hrun.final hfinal, hrun.asked, hrun.times 2 (Nat.le_refl 2), hrun.ended⟩

end RetryPolicy

end BlocklistWatch
