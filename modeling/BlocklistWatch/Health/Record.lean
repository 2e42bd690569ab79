import BlocklistWatch.Probe.Verdict

/-!
# The health record of a zone

Counters of the checks of one zone within a run: how many were made, how many gave a definite
answer, how many failed, and for which reasons.

* `FailureTally` counts failures by kind; `FailureTally.count_add` says what adding one changes.
* `ZoneRecord.note?` counts one check, unless it failed without a reason.
* `ZoneRecord.isBroken` holds of a zone whose every check failed.
-/

namespace BlocklistWatch

structure FailureTally where
  invalidResponseRange : Nat
  invalidResponseType : Nat
  nxdomainZone : Nat
  timeout : Nat
  unknownError : Nat
deriving DecidableEq, Repr

namespace FailureTally

def none : FailureTally := ⟨0, 0, 0, 0, 0⟩

instance : Inhabited FailureTally := ⟨none⟩

def count (t : FailureTally) : FailureKind → Nat
  | .invalidResponseRange => t.invalidResponseRange
  | .invalidResponseType => t.invalidResponseType
  | .nxdomainZone => t.nxdomainZone
  | .timeout => t.timeout
  | .unknownError => t.unknownError

def add (t : FailureTally) : FailureKind → FailureTally
  | .invalidResponseRange => { t with invalidResponseRange := t.invalidResponseRange + 1 }
  | .invalidResponseType => { t with invalidResponseType := t.invalidResponseType + 1 }
  | .nxdomainZone => { t with nxdomainZone := t.nxdomainZone + 1 }
  | .timeout => { t with timeout := t.timeout + 1 }
  | .unknownError => { t with unknownError := t.unknownError + 1 }

/-- The kinds that were met, in the order of their tags, with their numbers. -/
def entries (t : FailureTally) : List (FailureKind × Nat) :=
  (FailureKind.all.map fun k => (k, t.count k)).filter (·.2 ≠ 0)

def total (t : FailureTally) : Nat :=
  t.invalidResponseRange + t.invalidResponseType + t.nxdomainZone + t.timeout + t.unknownError

@[simp] theorem count_none (k : FailureKind) : none.count k = 0 := by
  cases k <;> rfl

theorem count_add (t : FailureTally) (k l : FailureKind) :
    (t.add k).count l = t.count l + if k = l then 1 else 0 := by
  cases k <;> cases l <;> rfl

theorem total_add (t : FailureTally) (k : FailureKind) : (t.add k).total = t.total + 1 := by
  cases k <;> simp [add, total] <;> omega

end FailureTally

inductive ZoneStatus where
  /-- Some check got a definite answer, or there was none. -/
  | healthy
  /-- Every check failed. -/
  | broken
deriving DecidableEq, Repr, Inhabited

def ZoneStatus.tag : ZoneStatus → String
  | .healthy => "healthy"
  | .broken => "broken"

structure ZoneRecord where
  zone : String
  performed : Nat
  successful : Nat
  failed : Nat
  failures : FailureTally
deriving DecidableEq, Repr, Inhabited

namespace ZoneRecord

def fresh (zone : String) : ZoneRecord :=
  ⟨zone, 0, 0, 0, .none⟩

/-- The record after one more check; a failed check without a reason is refused. -/
def note? (r : ZoneRecord) (success : Bool) (failure : Option FailureKind) : Option ZoneRecord :=
  if success then
    some { r with performed := r.performed + 1, successful := r.successful + 1 }
  else
    failure.map fun kind =>
      { r with
        performed := r.performed + 1
        failed := r.failed + 1
        failures := r.failures.add kind }

def isBroken (r : ZoneRecord) : Bool :=
  0 < r.performed && r.failed == r.performed

def status (r : ZoneRecord) : ZoneStatus :=
  if r.isBroken then .broken else .healthy

@[simp] theorem zone_fresh (zone : String) : (fresh zone).zone = zone := rfl

end ZoneRecord

end BlocklistWatch
