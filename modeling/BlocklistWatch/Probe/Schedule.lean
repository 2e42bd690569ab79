/-!
# Schedules

Jobs that are queued in order and of which only so many may run at once: each begins as soon as one
of the places is free, in the order of the queue.

* `schedule` gives every job its span of time.
* `inFlight` counts the jobs that run at a given instant.
-/

namespace BlocklistWatch

structure Span where
  start : Nat
  finish : Nat
deriving DecidableEq, Repr, Inhabited

def Span.covers (s : Span) (instant : Nat) : Bool :=
  s.start ≤ instant && instant < s.finish

def insertInstant (t : Nat) : List Nat → List Nat
  | [] => [t]
  | u :: us => if t ≤ u then t :: u :: us else u :: insertInstant t us

/-- The spans of jobs of given lengths, where the places taken are free again at the instants of
`busy`, in increasing order. -/
def scheduleFrom (places : Nat) (busy : List Nat) : List Nat → List Span
  | [] => []
  | d :: ds =>
    match busy with
    | [] => ⟨0, d⟩ :: scheduleFrom places [d] ds
    | first :: others =>
      if busy.length < places then ⟨0, d⟩ :: scheduleFrom places (insertInstant d busy) ds
      else ⟨first, first + d⟩ :: scheduleFrom places (insertInstant (first + d) others) ds

/-- The spans of jobs of given lengths with at most `limit` of them at once, where no limit is less
than one. -/
def schedule (limit : Nat) (lengths : List Nat) : List Span :=
  scheduleFrom (max limit 1) [] lengths

def inFlight (spans : List Span) (instant : Nat) : Nat :=
  (spans.filter (·.covers instant)).length

theorem length_scheduleFrom (places : Nat) (busy lengths : List Nat) :
    (scheduleFrom places busy lengths).length = lengths.length := by
  induction lengths generalizing busy with
  | nil => rfl
  | cons d ds ih =>
    unfold scheduleFrom
    split
    · simp [ih]
    · split <;> simp [ih]

@[simp] theorem length_schedule (limit : Nat) (lengths : List Nat) :
    (schedule limit lengths).length = lengths.length :=
  length_scheduleFrom _ _ _

end BlocklistWatch
