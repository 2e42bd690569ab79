import Mathlib.Algebra.GroupWithZero.Nat
import Mathlib.Data.List.Induction
import BlocklistWatch.Proofs.Health.Noting

/-!
# A tracker counts what it is told

Checks of one address are counted while other checks go on, so the calls reach a tracker in any
order, and some of them are refused. What the tracker holds in the end is what one gets by counting
the calls, and so the order does not matter.

* `TrackerCall` is a call, `HealthTracker.afterCalls` the tracker after some calls.
* `HealthTracker.tallied` is the tracker that one gets by counting; `afterCall_tallied` is one call,
  `afterCalls_tallied` all of them.
* `HealthTracker.counts_calls` says what is in the records, which calls are refused, and that calls
  in another order end in the same tracker.
-/

namespace BlocklistWatch

/-! ## Calls -/

inductive TrackerCall where
  | start
  | note (zone : String) (success : Bool) (failure : Option FailureKind)
deriving DecidableEq

namespace TrackerCall

/-- A check of the zone with a definite answer, whatever reason comes with it. -/
def succeedsAt (zone : String) : TrackerCall → Bool
  | start => false
  | note z success _ => z == zone && success

/-- A failed check of the zone that names its reason. -/
def failsAt (zone : String) : TrackerCall → Bool
  | start => false
  | note z success failure => z == zone && !success && failure.isSome

def answer (c : TrackerCall) (t : HealthTracker) : Except TrackerError HealthTracker :=
  match c with
  | start => .ok t.start
  | note zone success failure => t.note zone success failure

end TrackerCall

namespace HealthTracker

/-- The tracker after a call; a refused call leaves it as it is. -/
def afterCall (t : HealthTracker) (c : TrackerCall) : HealthTracker :=
  match c.answer t with
  | .ok t' => t'
  | .error _ => t

def afterCalls (t : HealthTracker) (calls : List TrackerCall) : HealthTracker :=
  calls.foldl afterCall t

theorem afterCalls_concat (t : HealthTracker) (calls : List TrackerCall) (c : TrackerCall) :
    t.afterCalls (calls ++ [c]) = (t.afterCalls calls).afterCall c := by
  rw [afterCalls, List.foldl_append]
  rfl

end HealthTracker

/-! ## Tallies of failures -/

namespace FailureTally

def ofCounts (count : FailureKind → Nat) : FailureTally :=
  ⟨count .invalidResponseRange, count .invalidResponseType, count .nxdomainZone, count .timeout,
    count .unknownError⟩

@[simp] theorem count_ofCounts (f : FailureKind → Nat) (k : FailureKind) :
    (ofCounts f).count k = f k := by
  cases k <;> rfl

theorem ofCounts_count (t : FailureTally) : ofCounts t.count = t := rfl

theorem ext_count {t u : FailureTally} (h : ∀ k, t.count k = u.count k) : t = u := by
  rw [← ofCounts_count t, ← ofCounts_count u, funext h]

theorem mem_entries {t : FailureTally} {k : FailureKind} {n : Nat} :
    (k, n) ∈ t.entries ↔ n = t.count k ∧ n ≠ 0 := by
  simp only [entries, List.mem_filter, List.mem_map, Prod.mk.injEq, decide_eq_true_eq]
  constructor
  · rintro ⟨⟨l, -, rfl, rfl⟩, hn⟩
    exact ⟨rfl, hn⟩
  · rintro ⟨rfl, hn⟩
    exact ⟨⟨k, FailureKind.mem_all k, rfl, rfl⟩, hn⟩

theorem sum_filter_ne_zero (entries : List (FailureKind × Nat)) :
    ((entries.filter (·.2 ≠ 0)).map (·.2)).sum = (entries.map (·.2)).sum := by
  induction entries with
  | nil => rfl
  | cons entry entries ih =>
    by_cases hzero : entry.2 = 0
    · rw [List.filter_cons_of_neg (by simpa using hzero), ih, List.map_cons, List.sum_cons, hzero,
        Nat.zero_add]
    · rw [List.filter_cons_of_pos (by simpa using hzero), List.map_cons, List.sum_cons, ih,
        List.map_cons, List.sum_cons]

theorem sum_entries (t : FailureTally) : (t.entries.map (·.2)).sum = t.total := by
  rw [entries, sum_filter_ne_zero]
  simp only [FailureKind.all, List.map_cons, List.map_nil, List.sum_cons, List.sum_nil, count,
    total]
  omega

end FailureTally

/-! ## One record -/

namespace ZoneRecord

/-- The record that one gets by counting the calls. -/
def tallied (zone : String) (calls : List TrackerCall) : ZoneRecord where
  zone := zone
  performed := calls.countP (·.succeedsAt zone) + calls.countP (·.failsAt zone)
  successful := calls.countP (·.succeedsAt zone)
  failed := calls.countP (·.failsAt zone)
  failures := .ofCounts fun kind => calls.count (.note zone false (some kind))

variable {zone : String} {calls : List TrackerCall}

/-- What does not count for the zone leaves its record alone. -/
theorem tallied_concat_of_other {c : TrackerCall} (hsuccess : c.succeedsAt zone = false)
    (hfailure : c.failsAt zone = false) : tallied zone (calls ++ [c]) = tallied zone calls := by
  have hkinds : ∀ kind, c ≠ .note zone false (some kind) := by
    rintro kind rfl
    simp [TrackerCall.failsAt] at hfailure
  simp [tallied, hsuccess, hfailure, List.count_append, hkinds]

theorem tallied_concat_of_ne {z : String} (hne : z ≠ zone) (success : Bool)
    (failure : Option FailureKind) :
    tallied zone (calls ++ [.note z success failure]) = tallied zone calls :=
  tallied_concat_of_other (by simp [TrackerCall.succeedsAt, hne])
    (by simp [TrackerCall.failsAt, hne])

/-- A check of the zone is counted as the record itself counts it. -/
theorem note?_tallied (zone : String) (calls : List TrackerCall) (success : Bool)
    (failure : Option FailureKind) :
    (tallied zone calls).note? success failure =
      if success || failure.isSome then
        some (tallied zone (calls ++ [.note zone success failure]))
      else none := by
  cases success with
  | true =>
    simp only [note?, if_true, Bool.true_or, Option.some.injEq]
    simp [tallied, TrackerCall.succeedsAt, TrackerCall.failsAt, List.count_append]
    omega
  | false =>
    cases failure with
    | none => rfl
    | some kind =>
      simp only [note?, Bool.false_eq_true, if_false, Option.map_some, Option.isSome_some,
        Bool.or_true, if_true, Option.some.injEq]
      have hfailures : (tallied zone calls).failures.add kind =
          (tallied zone (calls ++ [.note zone false (some kind)])).failures := by
        refine FailureTally.ext_count fun l => ?_
        rw [FailureTally.count_add, tallied, tallied, FailureTally.count_ofCounts,
          FailureTally.count_ofCounts, List.count_append, List.count_singleton]
        by_cases hkind : kind = l
        · simp [hkind]
        · simp [hkind]
      rw [hfailures]
      simp [tallied, TrackerCall.succeedsAt, TrackerCall.failsAt]
      omega

theorem total_note? {r r' : ZoneRecord} {success : Bool} {failure : Option FailureKind}
    (h : r.note? success failure = some r') (htotal : r.failures.total = r.failed) :
    r'.failures.total = r'.failed := by
  unfold note? at h
  split at h
  · rw [← Option.some.inj h]
    exact htotal
  · obtain ⟨kind, -, rfl⟩ := Option.map_eq_some_iff.1 h
    rw [FailureTally.total_add, htotal]

theorem total_tallied (zone : String) (calls : List TrackerCall) :
    (tallied zone calls).failures.total = (tallied zone calls).failed := by
  induction calls using List.reverseRecOn with
  | nil => rfl
  | append_singleton calls c ih =>
    cases c with
    | start => rwa [tallied_concat_of_other rfl rfl]
    | note z success failure =>
      by_cases hzone : z = zone
      · subst hzone
        have hnote := note?_tallied z calls success failure
        by_cases hcounted : (success || failure.isSome) = true
        · rw [if_pos hcounted] at hnote
          exact total_note? hnote ih
        · rw [Bool.not_eq_true, Bool.or_eq_false_iff] at hcounted
          rwa [tallied_concat_of_other (by simp [TrackerCall.succeedsAt, hcounted.1])
            (by simp [TrackerCall.failsAt, hcounted.2])]
      · rwa [tallied_concat_of_ne hzone]

/-- A record holds what one gets by counting the calls about its zone. -/
structure Counts (r : ZoneRecord) (calls : List TrackerCall) : Prop where
  successful : r.successful = calls.countP (·.succeedsAt r.zone)
  failed : r.failed = calls.countP (·.failsAt r.zone)
  /-- A kind of failure is entered with its number, or not at all if it was never met. -/
  kinds : ∀ kind n, (kind, n) ∈ r.failures.entries ↔
    n = calls.count (.note r.zone false (some kind)) ∧ n ≠ 0
  performed : r.performed = r.successful + r.failed
  explained : r.failed = (r.failures.entries.map (·.2)).sum

theorem counts_tallied (zone : String) (calls : List TrackerCall) :
    (tallied zone calls).Counts calls where
  successful := rfl
  failed := rfl
  kinds := fun kind n => by
    rw [FailureTally.mem_entries, tallied, FailureTally.count_ofCounts]
  performed := rfl
  explained := by rw [FailureTally.sum_entries, total_tallied]

theorem tallied_perm {calls' : List TrackerCall} (h : calls.Perm calls') (zone : String) :
    tallied zone calls = tallied zone calls' := by
  simp only [tallied, h.countP_eq, h.count_eq]

end ZoneRecord

/-! ## All records -/

namespace HealthTracker

/-- The tracker that one gets by counting the calls. -/
def tallied (zones : List String) (calls : List TrackerCall) : HealthTracker :=
  ⟨zones.map fun zone => ZoneRecord.tallied zone calls, calls.count .start⟩

variable {tracked : List String} {calls : List TrackerCall}

theorem zones_tallied : (tallied tracked calls).zones = tracked := by
  rw [zones, tallied, List.map_map]
  exact List.map_id' tracked

theorem record?_tallied {zone : String} (h : zone ∈ tracked) :
    (tallied tracked calls).record? zone = some (ZoneRecord.tallied zone calls) := by
  obtain ⟨r, hr⟩ := exists_record?_of_mem (t := tallied tracked calls) (by rwa [zones_tallied])
  obtain ⟨hmem, hzone⟩ := of_record? hr
  obtain ⟨z, -, rfl⟩ := List.mem_map.1 hmem
  have hz : z = zone := hzone
  rw [hr, hz]

theorem record?_tallied_of_not_mem {zone : String} (h : zone ∉ tracked) :
    (tallied tracked calls).record? zone = none := by
  rwa [record?_eq_none_iff, zones_tallied]

theorem note_tallied_of_not_mem {zone : String} (h : zone ∉ tracked) (success : Bool)
    (failure : Option FailureKind) :
    (tallied tracked calls).note zone success failure = .error (.unknownZone zone) := by
  rw [note, record?_tallied_of_not_mem h]

theorem note_tallied_of_unexplained {zone : String} (h : zone ∈ tracked) :
    (tallied tracked calls).note zone false none = .error (.missingFailureKind zone) := by
  rw [note, record?_tallied h]
  rfl

/-- A check that is not refused is counted. -/
theorem note_tallied_of_mem {zone : String} (h : zone ∈ tracked) {success : Bool}
    {failure : Option FailureKind} (hcounted : (success || failure.isSome) = true) :
    (tallied tracked calls).note zone success failure =
      .ok (tallied tracked (calls ++ [.note zone success failure])) := by
  have hnote := ZoneRecord.note?_tallied zone calls success failure
  rw [if_pos hcounted] at hnote
  simp only [note, record?_tallied h, hnote, Except.ok.injEq]
  rw [put, tallied, tallied, List.map_map]
  congr 1
  · refine List.map_congr_left fun z _ => ?_
    rw [Function.comp_apply]
    by_cases hz : z = zone
    · subst hz
      exact if_pos rfl
    · exact (if_neg hz).trans (ZoneRecord.tallied_concat_of_ne (Ne.symm hz) success failure).symm
  · simp [List.count_append]

theorem start_tallied : (tallied tracked calls).start = tallied tracked (calls ++ [.start]) := by
  have hsame : tracked.map (fun zone => ZoneRecord.tallied zone calls) =
      tracked.map fun zone => ZoneRecord.tallied zone (calls ++ [.start]) :=
    List.map_congr_left fun zone _ => (ZoneRecord.tallied_concat_of_other rfl rfl).symm
  have hcount : calls.count .start + 1 = (calls ++ [TrackerCall.start]).count .start := by
    simp [List.count_append]
  rw [start, tallied, tallied, hsame, hcount]

/-- What does not count for any tracked zone leaves the tracker alone. -/
theorem tallied_concat_of_other {zone : String} {success : Bool} {failure : Option FailureKind}
    (h : zone ∈ tracked → success = false ∧ failure = none) :
    tallied tracked (calls ++ [.note zone success failure]) = tallied tracked calls := by
  have hother : ∀ z ∈ tracked, ZoneRecord.tallied z (calls ++ [.note zone success failure]) =
      ZoneRecord.tallied z calls := by
    intro z hz
    by_cases hne : zone = z
    · subst hne
      obtain ⟨rfl, rfl⟩ := h hz
      exact ZoneRecord.tallied_concat_of_other (by simp [TrackerCall.succeedsAt])
        (by simp [TrackerCall.failsAt])
    · exact ZoneRecord.tallied_concat_of_ne hne success failure
  rw [tallied, tallied, List.map_congr_left hother]
  simp [List.count_append]

/-- A call is counted, or it is refused and does not count. -/
theorem afterCall_tallied (tracked : List String) (calls : List TrackerCall) (c : TrackerCall) :
    (tallied tracked calls).afterCall c = tallied tracked (calls ++ [c]) := by
  cases c with
  | start => exact start_tallied
  | note zone success failure =>
    simp only [afterCall, TrackerCall.answer]
    by_cases hzone : zone ∈ tracked
    · by_cases hcounted : (success || failure.isSome) = true
      · rw [note_tallied_of_mem hzone hcounted]
      · rw [Bool.not_eq_true, Bool.or_eq_false_iff, Option.isSome_eq_false_iff,
          Option.isNone_iff_eq_none] at hcounted
        rw [tallied_concat_of_other fun _ => hcounted]
        obtain ⟨rfl, rfl⟩ := hcounted
        rw [note_tallied_of_unexplained hzone]
    · rw [tallied_concat_of_other fun hmem => absurd hmem hzone, note_tallied_of_not_mem hzone]

theorem afterCalls_tallied (tracked : List String) (calls : List TrackerCall) :
    (tallied tracked []).afterCalls calls = tallied tracked calls := by
  induction calls using List.reverseRecOn with
  | nil => rfl
  | append_singleton calls c ih => rw [afterCalls_concat, ih, afterCall_tallied]

theorem tallied_perm {calls' : List TrackerCall} (h : calls.Perm calls') :
    tallied tracked calls = tallied tracked calls' := by
  rw [tallied, tallied, h.count_eq]
  congr 1
  exact List.map_congr_left fun zone _ => ZoneRecord.tallied_perm h zone

theorem eq_tallied_of_ofZones {configured : List String} {t : HealthTracker}
    (h : ofZones configured = .ok t) : t = tallied (Text.sortNames configured) [] := by
  unfold ofZones at h
  split at h
  · exact absurd h (by simp)
  · exact (Except.ok.inj h).symm

/-- After any calls the tracker holds a record for each distinct zone that it was started for, and
the record is what one gets by counting the calls about its zone. A check of another zone and a
failed check without a reason are refused, and then it is as if they had not been made. The same
calls in another order end in the same tracker. -/
theorem counts_calls {configured : List String} {t : HealthTracker}
    (h : ofZones configured = .ok t) (calls : List TrackerCall) :
    let after := t.afterCalls calls
    (after.zones.Pairwise (· < ·) ∧ ∀ zone, zone ∈ after.zones ↔ zone ∈ configured) ∧
      after.started = calls.count .start ∧
      (∀ zone ∈ configured, ∃ r, after.record? zone = some r ∧ r.zone = zone ∧ r.Counts calls) ∧
      (∀ zone success failure,
        (zone ∉ configured → after.note zone success failure = .error (.unknownZone zone)) ∧
        (zone ∈ configured → success = false ∧ failure = none →
          after.note zone success failure = .error (.missingFailureKind zone)) ∧
        (zone ∈ configured → ¬ (success = false ∧ failure = none) →
          (after.note zone success failure).isOk)) ∧
      (∀ c e more, c.answer after = .error e →
        t.afterCalls (calls ++ c :: more) = t.afterCalls (calls ++ more)) ∧
      ∀ calls', calls.Perm calls' → t.afterCalls calls' = after := by
  intro after
  have hstart := eq_tallied_of_ofZones h
  have hafter : after = tallied (Text.sortNames configured) calls := by
    rw [← afterCalls_tallied, ← hstart]
  have hzones : after.zones = Text.sortNames configured := by rw [hafter, zones_tallied]
  have hmem : ∀ zone, zone ∈ Text.sortNames configured ↔ zone ∈ configured := fun _ =>
    Text.mem_sortNames
  refine ⟨⟨?_, fun zone => ?_⟩, ?_, fun zone hzone => ?_, fun zone success failure => ⟨?_, ?_, ?_⟩,
    fun c e more hrefused => ?_, fun calls' hperm => ?_⟩
  · rw [hzones]
    exact Text.pairwise_sortNames configured
  · rw [hzones, hmem]
  · rw [hafter, tallied]
  · refine ⟨ZoneRecord.tallied zone calls, ?_, rfl, ZoneRecord.counts_tallied zone calls⟩
    rw [hafter, record?_tallied ((hmem zone).2 hzone)]
  · intro hzone
    rw [hafter]
    exact note_tallied_of_not_mem (mt (hmem zone).1 hzone) success failure
  · rintro hzone ⟨rfl, rfl⟩
    rw [hafter]
    exact note_tallied_of_unexplained ((hmem zone).2 hzone)
  · intro hzone hcounted
    have hcounted' : (success || failure.isSome) = true := by
      cases success <;> cases failure <;> simp_all
    rw [hafter, note_tallied_of_mem ((hmem zone).2 hzone) hcounted']
    rfl
  · have hsame : after.afterCall c = after := by rw [afterCall, hrefused]
    rw [afterCalls, afterCalls, List.foldl_append, List.foldl_cons, List.foldl_append]
    exact congrArg (fun t => more.foldl afterCall t) hsame
  · rw [hafter, hstart, afterCalls_tallied]
    exact (tallied_perm hperm).symm

/-- Calls about two zones, one of them named twice at the start: a success that brings a reason, a
failure without one and a check of a zone that is not tracked are among them. -/
theorem counts_calls_some_refused :
    let configured := ["b.example", "a.example", "b.example"]
    let calls : List TrackerCall :=
      [.start, .note "b.example" false (some .timeout), .note "c.example" true none,
        .note "b.example" true (some .timeout), .note "a.example" false none, .start,
        .note "b.example" false (some .timeout)]
    ∃ t r, ofZones configured = .ok t ∧ (t.afterCalls calls).started = 2 ∧
      (t.afterCalls calls).record? "b.example" = some r ∧ r.performed = 3 ∧
      (.timeout, 2) ∈ r.failures.entries ∧
      t.afterCalls calls.reverse = t.afterCalls calls := by
  intro configured calls
  have hbuilt : ofZones configured = .ok ⟨[.fresh "a.example", .fresh "b.example"], 0⟩ := by
    decide
  obtain ⟨-, hstarted, hrecords, -, -, hperm⟩ := counts_calls hbuilt calls
  obtain ⟨r, hr, hzone, hcounts⟩ := hrecords "b.example" (by decide)
  refine ⟨_, r, hbuilt, hstarted, hr, ?_, ?_, hperm _ (List.reverse_perm calls).symm⟩
  · rw [hcounts.performed, hcounts.successful, hcounts.failed, hzone]
    decide
  · rw [hcounts.kinds, hzone]
    decide

end HealthTracker

end BlocklistWatch
