import BlocklistWatch.Tickets.Error

/-!
# Further attempts

A call that fails in a way that may pass is made again after a wait, up to a number of times.

* `RetryPolicy.delayFor` is the wait after a failed attempt.
* `RetryPolicy.run` makes a call until it succeeds, fails for good, or the attempts are used up, and
  says when each attempt was made and when the result was there. Calls take no time; waits are in
  milliseconds.
-/

namespace BlocklistWatch

structure RetryPolicy where
  maxRetries : Nat
  /-- The waits between attempts; the last one repeats. -/
  delays : List Nat
  statuses : List Nat
deriving DecidableEq, Repr, Inhabited

structure Attempts (σ α : Type) where
  result : Except TicketError α
  state : σ
  calledAt : List Nat
  endedAt : Nat

namespace RetryPolicy

def standard : RetryPolicy :=
  ⟨3, [2000, 4000, 8000], passingStatuses⟩

def none : RetryPolicy :=
  { standard with maxRetries := 0 }

def withoutDelays (p : RetryPolicy) : RetryPolicy :=
  { p with delays := [] }

def isRetryable (p : RetryPolicy) (status : Nat) : Bool :=
  p.statuses.contains status

def shouldRetry (p : RetryPolicy) : TicketError → Bool
  | .api status _ => p.isRetryable status
  | _ => false

/-- The wait after a failed attempt, where the first attempt has number 0. -/
def delayFor (p : RetryPolicy) (attempt : Nat) : Nat :=
  match p.delays[attempt]? with
  | some ms => ms
  | .none => p.delays.getLast?.getD 0

/-- Makes a call that acts on a state, from an attempt of the given number at the given instant. -/
def runFrom {σ α : Type} (p : RetryPolicy) (call : σ → Except TicketError α × σ)
    (attempt time : Nat) (s : σ) : Attempts σ α :=
  match call s with
  | (.ok a, s) => ⟨.ok a, s, [time], time⟩
  | (.error e, s) =>
    if p.shouldRetry e = false then ⟨.error e, s, [time], time⟩
    else if h : p.maxRetries ≤ attempt then ⟨.error (.exhausted (attempt + 1) e), s, [time], time⟩
    else
      let rest := runFrom p call (attempt + 1) (time + p.delayFor attempt) s
      { rest with calledAt := time :: rest.calledAt }
termination_by p.maxRetries - attempt

def run {σ α : Type} (p : RetryPolicy) (call : σ → Except TicketError α × σ) (s : σ) :
    Attempts σ α :=
  p.runFrom call 0 0 s

end RetryPolicy

end BlocklistWatch
