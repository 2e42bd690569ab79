import BlocklistWatch.Proofs.Probe.FanOut

/-!
# When probes begin and how long a check takes

With a limit on the probes at once, and none that takes longer than the timeout, the probes begin in
rounds of as many as there are permits: whoever is `j`-th in the queue begins after at most
`j / limit` timeouts, because of the tasks before it all but fewer than the permits have ended.

* `latestStart` is that bound; `latestStart_add` says that a whole round later is one timeout later.
* `inFlight_schedule_le` and `start_schedule_le` say it of the spans that the clock gives.
* `Tasks.Timely` says it of tasks that are served in turn, at any moment of any of their runs;
  `Tasks.Timely.step` is a step and `Tasks.TurnRun.timely` a run.
* `checkAddress_in_time` is both.
-/

namespace BlocklistWatch

/-- The latest moment at which the `j`-th in the queue gets one of the places. -/
def latestStart (places timeout j : Nat) : Nat :=
  j / places * timeout

section

variable {places timeout : Nat}

theorem latestStart_mono {i j : Nat} (h : i ≤ j) :
    latestStart places timeout i ≤ latestStart places timeout j :=
  Nat.mul_le_mul_right _ (Nat.div_le_div_right h)

theorem latestStart_add (h : 0 < places) (j : Nat) :
    latestStart places timeout (j + places) = latestStart places timeout j + timeout := by
  rw [latestStart, Nat.add_div_right _ h, Nat.succ_mul]
  rfl

theorem le_latestStart (h : 0 < places) (j : Nat) :
    timeout ≤ latestStart places timeout (places + j) := by
  rw [Nat.add_comm, latestStart_add h]
  exact Nat.le_add_left _ _

/-! ## Schedules -/

theorem perm_insertInstant (t : Nat) (us : List Nat) : (insertInstant t us).Perm (t :: us) := by
  induction us with
  | nil => exact .refl _
  | cons u us ih =>
    rw [insertInstant]
    split
    · exact .refl _
    · exact (ih.cons u).trans (.swap t u us)

/-- An instant put among others keeps them below a bound that grows with the position, if it is below
the bound behind the last. -/
theorem insertInstant_le {f : Nat → Nat} (hmono : ∀ i, f i ≤ f (i + 1)) {t : Nat} {us : List Nat}
    (hus : ∀ i u, us[i]? = some u → u ≤ f i) (ht : t ≤ f us.length) (i u : Nat)
    (hu : (insertInstant t us)[i]? = some u) : u ≤ f i := by
  induction us generalizing f i with
  | nil =>
    obtain ⟨rfl, rfl⟩ : i = 0 ∧ t = u := by
      cases i with
      | zero => exact ⟨rfl, Option.some.inj hu⟩
      | succ i => exact absurd hu (by simp [insertInstant])
    exact ht
  | cons v us ih =>
    rw [insertInstant] at hu
    split at hu
    · next hle =>
      cases i with
      | zero =>
        rw [← Option.some.inj hu]
        exact hle.trans (hus 0 v rfl)
      | succ i => exact (hus i u hu).trans (hmono i)
    · cases i with
      | zero => exact hus 0 u hu
      | succ i =>
        exact ih (fun i => hmono (i + 1)) (fun i u hu => hus (i + 1) u hu) ht i hu

theorem scheduleFrom_of_free {busy : List Nat} (h : busy.length < places) (d : Nat)
    (ds : List Nat) :
    scheduleFrom places busy (d :: ds) =
      ⟨0, d⟩ :: scheduleFrom places (insertInstant d busy) ds := by
  cases busy with
  | nil => rfl
  | cons first others => rw [scheduleFrom, if_pos h]

theorem scheduleFrom_of_taken {first : Nat} {others : List Nat}
    (h : places ≤ (first :: others).length) (d : Nat) (ds : List Nat) :
    scheduleFrom places (first :: others) (d :: ds) =
      ⟨first, first + d⟩ :: scheduleFrom places (insertInstant (first + d) others) ds := by
  rw [scheduleFrom, if_neg (Nat.not_lt.2 h)]

/-- At any instant the jobs to come and those whose places are not free yet fit into the places. -/
theorem inFlight_scheduleFrom_le (hplaces : 0 < places) (busy : List Nat)
    (hbusy : busy.length ≤ places) (lengths : List Nat) (instant : Nat) :
    inFlight (scheduleFrom places busy lengths) instant +
      busy.countP (fun t => instant < t) ≤ places := by
  induction lengths generalizing busy with
  | nil =>
    have hsome : busy.countP (fun t => instant < t) ≤ busy.length := List.countP_le_length
    simp only [scheduleFrom, inFlight, List.filter_nil, List.length_nil]
    omega
  | cons d ds ih =>
    by_cases hfree : busy.length < places
    · have hrest := ih (insertInstant d busy) (by
        rw [(perm_insertInstant d busy).length_eq, List.length_cons]
        exact hfree)
      rw [(perm_insertInstant d busy).countP_eq, List.countP_cons] at hrest
      rw [scheduleFrom_of_free hfree]
      simp only [inFlight, List.filter_cons, Span.covers, Nat.zero_le, decide_true,
        Bool.true_and, decide_eq_true_eq] at hrest ⊢
      split at hrest
      · next hnow => simp only [if_pos hnow, List.length_cons]; omega
      · next hnow => simp only [if_neg hnow]; omega
    · obtain ⟨first, others, rfl⟩ : ∃ first others, busy = first :: others :=
        List.exists_cons_of_length_pos (by omega)
      have hrest := ih (insertInstant (first + d) others) (by
        rw [(perm_insertInstant _ others).length_eq, List.length_cons]
        exact hbusy)
      rw [(perm_insertInstant _ others).countP_eq, List.countP_cons] at hrest
      rw [scheduleFrom_of_taken (Nat.not_lt.1 hfree), List.countP_cons]
      simp only [inFlight, List.filter_cons, Span.covers, Bool.and_eq_true,
        decide_eq_true_eq] at hrest ⊢
      -- The place of the first to end is given to the new job at that very instant.
      by_cases hearly : instant < first
      · rw [if_pos (by omega : instant < first + d)] at hrest
        rw [if_neg (by omega), if_pos hearly]
        omega
      · by_cases hnow : instant < first + d
        · rw [if_pos hnow] at hrest
          rw [if_pos ⟨by omega, hnow⟩, if_neg hearly, List.length_cons]
          omega
        · rw [if_neg hnow] at hrest
          rw [if_neg (fun h => hnow h.2), if_neg hearly]
          omega

/-- The `i`-th of the places to be free again is free in time for the job that is to have it, when
`k` jobs have been given places. -/
theorem start_scheduleFrom_le (hplaces : 0 < places) {lengths : List Nat}
    (hlengths : ∀ d ∈ lengths, d ≤ timeout) (k : Nat) (busy : List Nat)
    (hlength : busy.length = min k places)
    (hbusy : ∀ i t, busy[i]? = some t → t ≤ latestStart places timeout (max k places + i)) (j : Nat)
    (span : Span) (hspan : (scheduleFrom places busy lengths)[j]? = some span) :
    span.start ≤ latestStart places timeout (k + j) := by
  induction lengths generalizing k busy j with
  | nil => exact absurd hspan (by simp [scheduleFrom])
  | cons d ds ih =>
    have hd : d ≤ timeout := hlengths d (List.mem_cons_self ..)
    have hds : ∀ d ∈ ds, d ≤ timeout := fun d hd => hlengths d (List.mem_cons_of_mem _ hd)
    by_cases hfree : k < places
    · rw [scheduleFrom_of_free (by omega)] at hspan
      cases j with
      | zero =>
        rw [← Option.some.inj hspan]
        exact Nat.zero_le _
      | succ j =>
        rw [show k + (j + 1) = k + 1 + j by omega]
        refine ih hds (k + 1) (insertInstant d busy) ?_ ?_ j hspan
        · rw [(perm_insertInstant d busy).length_eq, List.length_cons]
          omega
        · rw [show max (k + 1) places = max k places by omega]
          exact insertInstant_le (fun i => latestStart_mono (by omega)) hbusy
            (hd.trans (by rw [show max k places = places by omega]; exact le_latestStart hplaces _))
    · obtain ⟨first, others, rfl⟩ : ∃ first others, busy = first :: others :=
        List.exists_cons_of_length_pos (by omega)
      rw [List.length_cons] at hlength
      have hfirst : first ≤ latestStart places timeout k := by
        have := hbusy 0 first rfl
        rwa [show max k places + 0 = k by omega] at this
      rw [scheduleFrom_of_taken (by rw [List.length_cons]; omega)] at hspan
      cases j with
      | zero =>
        rw [← Option.some.inj hspan]
        exact hfirst
      | succ j =>
        rw [show k + (j + 1) = k + 1 + j by omega]
        refine ih hds (k + 1) (insertInstant (first + d) others) ?_ ?_ j hspan
        · rw [(perm_insertInstant _ others).length_eq, List.length_cons]
          omega
        · refine insertInstant_le (fun i => latestStart_mono (by omega)) (fun i t ht => ?_) ?_
          · have := hbusy (i + 1) t ht
            rwa [show max k places + (i + 1) = max (k + 1) places + i by omega] at this
          · rw [show max (k + 1) places + others.length = k + places by omega,
              latestStart_add hplaces]
            exact Nat.add_le_add hfirst hd

theorem finish_scheduleFrom (places : Nat) {lengths : List Nat} (busy : List Nat) (j d : Nat)
    (hd : lengths[j]? = some d) :
    ∃ span, (scheduleFrom places busy lengths)[j]? = some span ∧ span.finish = span.start + d := by
  induction lengths generalizing busy j with
  | nil => exact absurd hd (by simp)
  | cons first lengths ih =>
    unfold scheduleFrom
    cases j with
    | zero =>
      obtain rfl := Option.some.inj hd
      split
      · exact ⟨_, rfl, (Nat.zero_add _).symm⟩
      · split
        · exact ⟨_, rfl, (Nat.zero_add _).symm⟩
        · exact ⟨_, rfl, rfl⟩
    | succ j =>
      split
      · exact ih _ j hd
      · split <;> exact ih _ j hd

end

theorem inFlight_schedule_le (limit : Nat) (lengths : List Nat) (instant : Nat) :
    inFlight (schedule limit lengths) instant ≤ max limit 1 := by
  have hplaces : 0 < max limit 1 := by omega
  have h := inFlight_scheduleFrom_le hplaces [] (Nat.zero_le _) lengths instant
  rw [List.countP_nil] at h
  exact h

/-- The span of the job at a position: it begins in time and takes as long as the job. -/
theorem start_schedule_le {timeout : Nat} (limit : Nat) {lengths : List Nat}
    (hlengths : ∀ d ∈ lengths, d ≤ timeout) (j : Nat) {d : Nat} (hd : lengths[j]? = some d) :
    ∃ span, (schedule limit lengths)[j]? = some span ∧
      span.start ≤ latestStart (max limit 1) timeout j ∧ span.finish = span.start + d := by
  have hplaces : 0 < max limit 1 := by omega
  obtain ⟨span, hspan, hfinish⟩ := finish_scheduleFrom (max limit 1) [] j d hd
  have hstart := start_scheduleFrom_le hplaces hlengths 0 [] (by simp)
    (fun i t ht => absurd ht (by simp)) j span hspan
  rw [Nat.zero_add] at hstart
  exact ⟨span, hspan, hstart, hfinish⟩

/-! ## By the clock -/

theorem getElem?_spans (p : Prober) (ip : Ipv4) (limit : Nat) {zones : List String} {j : Nat}
    {zone : String} (hzone : zones[j]? = some zone) :
    ∃ span, (p.spans ip limit zones)[j]? = some ⟨zone, span⟩ ∧
      span.start ≤ latestStart (max limit 1) p.timeout j ∧
      span.finish = span.start + p.duration ip zone := by
  have hlengths : ∀ d ∈ zones.map (p.duration ip), d ≤ p.timeout := by
    intro d hd
    obtain ⟨z, -, rfl⟩ := List.mem_map.1 hd
    exact p.duration_le ip z
  obtain ⟨span, hspan, hstart, hfinish⟩ := start_schedule_le limit hlengths j
    (d := p.duration ip zone) (by rw [List.getElem?_map, hzone, Option.map_some])
  refine ⟨span, ?_, hstart, hfinish⟩
  rw [Prober.spans, List.getElem?_zipWith, hzone, hspan]

theorem map_span_spans (p : Prober) (ip : Ipv4) (limit : Nat) (zones : List String) :
    (p.spans ip limit zones).map (·.span) = schedule limit (zones.map (p.duration ip)) := by
  have hlength : (schedule limit (zones.map (p.duration ip))).length ≤ zones.length := by
    rw [length_schedule, List.length_map]
  rw [Prober.spans, ← List.map_uncurry_zip_eq_zipWith, List.map_map]
  exact List.map_snd_zip hlength

theorem lastFinish_le {bound : Nat} {spans : List ProbeSpan}
    (h : ∀ s ∈ spans, s.span.finish ≤ bound) : lastFinish spans ≤ bound := by
  have hall : ∀ (ts : List Nat) (t : Nat), t ≤ bound → (∀ u ∈ ts, u ≤ bound) →
      ts.foldl max t ≤ bound := by
    intro ts
    induction ts with
    | nil => exact fun t ht _ => ht
    | cons u ts ih =>
      intro t ht hts
      exact ih _ (Nat.max_le.2 ⟨ht, hts u (List.mem_cons_self ..)⟩) fun v hv =>
        hts v (List.mem_cons_of_mem _ hv)
  refine hall _ 0 (Nat.zero_le _) fun t ht => ?_
  obtain ⟨s, hs, rfl⟩ := List.mem_map.1 ht
  exact h s hs

/-- No probe ends later than a timeout after the last could begin. -/
theorem finish_spans_le (p : Prober) (ip : Ipv4) (limit : Nat) (zones : List String)
    (s : ProbeSpan) (hs : s ∈ p.spans ip limit zones) :
    s.span.finish ≤ latestStart (max limit 1) p.timeout (zones.length + max limit 1 - 1) := by
  obtain ⟨j, hj⟩ := List.mem_iff_getElem?.1 hs
  have hlength : j < zones.length := by
    have := (List.getElem?_eq_some_iff.1 hj).1
    rw [Prober.spans, List.length_zipWith] at this
    omega
  obtain ⟨span, hspan, hstart, hfinish⟩ :=
    getElem?_spans p ip limit (List.getElem?_eq_getElem hlength)
  obtain rfl := Option.some.inj (hj.symm.trans hspan)
  have hround : latestStart (max limit 1) p.timeout (j + max limit 1) = _ :=
    latestStart_add (by omega) j
  calc span.finish
      = span.start + p.duration ip zones[j] := hfinish
    _ ≤ latestStart (max limit 1) p.timeout j + p.timeout :=
        Nat.add_le_add hstart (p.duration_le ip _)
    _ = latestStart (max limit 1) p.timeout (j + max limit 1) := hround.symm
    _ ≤ latestStart (max limit 1) p.timeout (zones.length + max limit 1 - 1) :=
        latestStart_mono (by omega)

theorem elapsed_checkAddress_le (p : Prober) (tracker : Option HealthTracker) (ip : Ipv4)
    (zones : List String) (limit : Nat) :
    (checkAddress p tracker ip zones limit).elapsed ≤
      latestStart (max limit 1) p.timeout
        ((Text.sortNames zones).length + max limit 1 - 1) := by
  have hspans := finish_spans_le p ip limit (Text.sortNames zones)
  unfold checkAddress
  by_cases hnone : (Text.sortNames zones).isEmpty = true
  · simp only [hnone, if_true]
    exact Nat.zero_le _
  · simp only [hnone, if_false, Bool.false_eq_true]
    split
    · exact lastFinish_le hspans
    · exact lastFinish_le fun s hs => hspans s (List.mem_filter.1 hs).1

/-! ## Tasks that are served in turn -/

/-- Among so many different names in front of a position one is so far in front. -/
theorem exists_getElem?_of_length_le {zones names : List String} {places j : Nat}
    (hnodup : names.Nodup) (hplaces : 0 < places) (hlength : places ≤ names.length)
    (hfront : ∀ name ∈ names, ∃ i, i < j ∧ zones[i]? = some name) :
    ∃ name ∈ names, ∃ i, zones[i]? = some name ∧ i + places ≤ j := by
  by_contra hnot
  have hnear : names ⊆ (zones.take j).drop (j + 1 - places) := by
    intro name hname
    obtain ⟨i, hless, hi⟩ := hfront name hname
    have hfar : ¬ i + places ≤ j := fun h => hnot ⟨name, hname, i, hi, h⟩
    refine List.mem_iff_getElem?.2 ⟨i - (j + 1 - places), ?_⟩
    rw [List.getElem?_drop, List.getElem?_take_of_lt (by omega), ← hi]
    congr 1
    omega
  have hfew := (List.subperm_of_subset hnodup hnear).length_le
  rw [List.length_drop, List.length_take] at hfew
  omega

theorem lt_of_getElem?_lt {zones : List String} (hsorted : zones.Pairwise (· < ·)) {a b : String}
    {i j : Nat} (hi : zones[i]? = some a) (hj : zones[j]? = some b) (h : a < b) : i < j := by
  obtain ⟨hi', rfl⟩ := List.getElem?_eq_some_iff.1 hi
  obtain ⟨hj', rfl⟩ := List.getElem?_eq_some_iff.1 hj
  by_contra hle
  rcases Nat.lt_or_ge j i with hless | hge
  · exact String.lt_asymm h (List.pairwise_iff_getElem.1 hsorted j i hj' hi' hless)
  · obtain rfl : i = j := by omega
    exact String.lt_irrefl _ h

namespace Tasks

/-- Tasks that are in time: whoever has a permit got it in time, and the time of nobody who waits is
over. Permits went to smaller zones than those that wait. -/
structure Timely (p : Prober) (limit : Nat) (zones : List String) (s : Tasks) : Prop where
  queue : s.waiting.Sublist zones
  ahead : ∀ permit ∈ s.held, ∀ zone ∈ s.waiting, permit.zone < zone
  distinct : (s.held.map (·.zone)).Nodup
  few : s.held.length ≤ max limit 1
  begun : ∀ permit ∈ s.held, ∀ j, zones[j]? = some permit.zone →
    permit.since ≤ latestStart (max limit 1) p.timeout j
  due : ∀ zone ∈ s.waiting, ∀ j, zones[j]? = some zone →
    s.now ≤ latestStart (max limit 1) p.timeout j
  bounded : s.now ≤ latestStart (max limit 1) p.timeout (zones.length + max limit 1 - 1)

variable {p : Prober} {ip : Ipv4} {limit : Nat} {tracker : Option HealthTracker}
  {zones : List String} {s s' : Tasks}

theorem timely_start (p : Prober) (limit : Nat) (tracker : Option HealthTracker)
    (zones : List String) : (start tracker zones).Timely p limit zones := by
  refine ⟨List.Sublist.refl _, ?_, List.nodup_nil, Nat.zero_le _, ?_, fun _ _ _ _ => Nat.zero_le _,
    Nat.zero_le _⟩
  · exact fun permit h => absurd h List.not_mem_nil
  · exact fun permit h => absurd h List.not_mem_nil

/-- Whoever goes on with fewer tasks at the same moment is in time as well. -/
theorem Timely.fewer (h : s.Timely p limit zones) (hwaiting : s'.waiting.Sublist s.waiting)
    (hheld : s'.held.Sublist s.held) (hnow : s'.now = s.now) : s'.Timely p limit zones where
  queue := hwaiting.trans h.queue
  ahead permit hpermit zone hzone :=
    h.ahead permit (hheld.subset hpermit) zone (hwaiting.subset hzone)
  distinct := h.distinct.sublist (hheld.map _)
  few := hheld.length_le.trans h.few
  begun permit hpermit := h.begun permit (hheld.subset hpermit)
  due zone hzone j hj := hnow ▸ h.due zone (hwaiting.subset hzone) j hj
  bounded := hnow ▸ h.bounded

/-- A probe that goes on can go on to the next moment within a timeout after it began. -/
theorem Sound.next_le (hsound : s.Sound p ip tracker zones) {permit : Permit}
    (hpermit : permit ∈ s.held) (hnone : s.poll p ip permit = none) {i : Nat}
    (hbegun : permit.since ≤ latestStart (max limit 1) p.timeout i) :
    s.now + 1 ≤ latestStart (max limit 1) p.timeout (i + max limit 1) := by
  have hgoing := hsound.poll_eq_none hpermit hnone
  have hduration := p.duration_le ip permit.zone
  have hsince := (hsound.held permit hpermit).2.2
  rw [latestStart_add (by omega)]
  omega

theorem Timely.step (h : s.Timely p limit zones) (hsound : s.Sound p ip tracker zones)
    (hsorted : zones.Pairwise (· < ·)) (hstep : TurnStep p ip limit s s') :
    s'.Timely p limit zones := by
  obtain ⟨hstep, hturn, hprompt⟩ := hstep
  cases hstep with
  | @grant zone hwaiting hfree =>
    obtain ⟨rest, hrest⟩ : ∃ rest, s.waiting = zone :: rest :=
      List.head?_eq_some_iff.1 (hturn zone rfl)
    have herase : s.waiting.erase zone = rest := by rw [hrest, List.erase_cons_head]
    have hbehind : ∀ z ∈ rest, zone < z :=
      (List.pairwise_cons.1 (hrest ▸ hsorted.sublist h.queue)).1
    have hmem : ∀ z ∈ rest, z ∈ s.waiting := fun z hz => hrest ▸ List.mem_cons_of_mem _ hz
    simp only [herase]
    refine ⟨?_, ?_, ?_, hfree, ?_, fun z hz => h.due z (hmem z hz), h.bounded⟩
    · exact (List.sublist_cons_self zone rest).trans (hrest ▸ h.queue)
    · intro permit hpermit z hz
      rcases List.mem_cons.1 hpermit with rfl | hpermit
      · exact hbehind z hz
      · exact h.ahead permit hpermit z (hmem z hz)
    · refine List.nodup_cons.2 ⟨fun hheld => ?_, h.distinct⟩
      obtain ⟨permit, hpermit, hsame⟩ := List.mem_map.1 hheld
      have hless : permit.zone < zone := h.ahead permit hpermit zone hwaiting
      rw [show permit.zone = zone from hsame] at hless
      exact String.lt_irrefl zone hless
    · intro permit hpermit j hj
      rcases List.mem_cons.1 hpermit with rfl | hpermit
      · exact h.due zone hwaiting j hj
      · exact h.begun permit hpermit j hj
  | finish hheld hpoll => exact h.fewer (.refl _) List.erase_sublist rfl
  | take hready => exact h.fewer (.refl _) (.refl _) rfl
  | pass hheld hnone =>
    have hposition : ∀ permit ∈ s.held, ∃ i, zones[i]? = some permit.zone := fun permit hpermit =>
      List.mem_iff_getElem?.1 (hsound.held permit hpermit).1
    refine ⟨h.queue, h.ahead, h.distinct, h.few, h.begun, fun zone hwaiting j hj => ?_, ?_⟩
    · -- All permits are in the hands of tasks in front, so one of them is a whole round in front.
      have hall : max limit 1 ≤ (s.held.map (·.zone)).length := by
        rw [List.length_map]
        refine (hprompt (Nat.lt_succ_self _)).resolve_left fun hnobody => ?_
        exact absurd (hnobody ▸ hwaiting) List.not_mem_nil
      obtain ⟨name, hname, i, hi, hround⟩ :=
        exists_getElem?_of_length_le h.distinct (by omega) hall fun name hname => by
          obtain ⟨permit, hpermit, rfl⟩ := List.mem_map.1 hname
          obtain ⟨i, hi⟩ := hposition permit hpermit
          exact ⟨i, lt_of_getElem?_lt hsorted hi hj (h.ahead permit hpermit zone hwaiting), hi⟩
      obtain ⟨permit, hpermit, rfl⟩ := List.mem_map.1 hname
      have hnext := hsound.next_le hpermit (hnone permit hpermit) (h.begun permit hpermit i hi)
      exact hnext.trans (latestStart_mono hround)
    · obtain ⟨permit, hpermit⟩ := List.exists_mem_of_ne_nil _ hheld
      obtain ⟨i, hi⟩ := hposition permit hpermit
      have hless := (List.getElem?_eq_some_iff.1 hi).1
      have hnext := hsound.next_le hpermit (hnone permit hpermit) (h.begun permit hpermit i hi)
      exact hnext.trans (latestStart_mono (by omega))
  | callOffWaiting hrefusal hwaiting => exact h.fewer List.erase_sublist (.refl _) rfl
  | callOffHeld hrefusal hheld => exact h.fewer (.refl _) List.erase_sublist rfl

theorem TurnRun.timely {n : Nat} (hrun : TurnRun p ip limit (Tasks.start tracker zones) n s)
    (hnodup : ∀ t ∈ tracker, t.zones.Nodup) (hsorted : zones.Pairwise (· < ·)) :
    s.Timely p limit zones := by
  induction hrun with
  | start => exact timely_start p limit tracker zones
  | step hrun hstep ih =>
    have hdistinct : zones.Nodup := hsorted.imp String.ne_of_lt
    exact ih.step (hrun.run.sound (sound_start p ip tracker zones) hnodup hdistinct) hsorted hstep

end Tasks

/-! ## Whole checks -/

/-- An answer at the very deadline is still an answer. -/
theorem Prober.probe_at_deadline {p : Prober} {ip : Ipv4} {zone query : String} {outcome : Outcome}
    (hquery : probeQuery ip zone = .ok query)
    (hreply : p.lookup zone query = .answer outcome p.timeout) :
    p.probe ip zone = .finding (.ofOutcome ip zone outcome) ∧
      p.poll ip zone p.timeout = some (.finding (.ofOutcome ip zone outcome)) := by
  have hprobe : p.probe ip zone = .finding (.ofOutcome ip zone outcome) := by
    simp only [probe, hquery, hreply, Reply.await, Nat.le_refl, if_true]
  have hduration : p.duration ip zone = p.timeout := by
    simp only [duration, hquery, hreply, Reply.wait, Reply.due?, Option.getD_some, Nat.min_self]
  refine ⟨hprobe, ?_⟩
  rw [poll_eq (Nat.le_of_eq hduration.symm), if_pos hduration.symm, hprobe]

/-- With at most `places` probes at once no more are ever under way, the probe of the `j`-th zone
begins within `j / places` timeouts, and the check returns within as many timeouts as there are rounds.
That is so by the clock, and at every moment of every run of tasks that are served in turn, which never
gets stuck; an answer at the deadline still counts. -/
theorem checkAddress_in_time (p : Prober) (ip : Ipv4) (zones : List String) (limit : Nat)
    (tracker : Option HealthTracker)
    (htracker : ∀ t ∈ tracker, ∃ configured, HealthTracker.Since configured t) :
    let distinct := Text.sortNames zones
    let places := max limit 1
    let last := (distinct.length + places - 1) / places * p.timeout
    let spans := p.spans ip limit distinct
    (distinct.Pairwise (· < ·) ∧ ∀ zone, zone ∈ distinct ↔ zone ∈ zones) ∧
    ((∀ instant, inFlight (spans.map (·.span)) instant ≤ places) ∧
      (∀ j zone, distinct[j]? = some zone → ∃ span, spans[j]? = some ⟨zone, span⟩ ∧
        span.start ≤ j / places * p.timeout ∧ span.finish = span.start + p.duration ip zone) ∧
      (checkAddress p tracker ip zones limit).elapsed ≤ last) ∧
    (∀ n s, Tasks.TurnRun p ip limit (Tasks.start tracker distinct) n s →
      s.held.length ≤ places ∧
      (∀ j zone, distinct[j]? = some zone →
        (zone ∈ s.waiting → s.now ≤ j / places * p.timeout) ∧
        ∀ permit ∈ s.held, permit.zone = zone → permit.since ≤ j / places * p.timeout) ∧
      s.now ≤ last ∧
      n ≤ distinct.length * (p.timeout + 3) + 1 ∧
      (s.check.refusal = none → s.check.awaited ≠ [] →
        ∃ s', Tasks.TurnStep p ip limit s s')) ∧
    ∀ zone query outcome, probeQuery ip zone = .ok query →
      p.lookup zone query = .answer outcome p.timeout →
      p.probe ip zone = .finding (.ofOutcome ip zone outcome) ∧
        p.poll ip zone p.timeout = some (.finding (.ofOutcome ip zone outcome)) := by
  intro distinct places last spans
  have hsorted : distinct.Pairwise (· < ·) := Text.pairwise_sortNames zones
  have hdistinct : distinct.Nodup := Text.nodup_sortNames zones
  have hnodup : ∀ t ∈ tracker, t.zones.Nodup := by
    intro t ht
    obtain ⟨configured, hsince⟩ := htracker t ht
    exact hsince.nodup_zones
  refine ⟨⟨hsorted, fun _ => Text.mem_sortNames⟩, ⟨fun instant => ?_, fun j zone hzone => ?_, ?_⟩,
    fun n s hrun => ?_, fun zone query outcome hquery hreply => ?_⟩
  · rw [map_span_spans]
    exact inFlight_schedule_le limit _ instant
  · exact getElem?_spans p ip limit hzone
  · exact elapsed_checkAddress_le p tracker ip zones limit
  · have htimely := hrun.timely hnodup hsorted
    have hsound := hrun.run.sound (Tasks.sound_start p ip tracker distinct) hnodup hdistinct
    refine ⟨htimely.few, fun j zone hzone => ⟨fun hwaiting => ?_, fun permit hpermit hsame => ?_⟩,
      htimely.bounded, hrun.run.bounded hnodup hdistinct, hsound.progress_inTurn⟩
    · exact htimely.due zone hwaiting j hzone
    · exact htimely.begun permit hpermit j (hsame ▸ hzone)
  · exact Prober.probe_at_deadline hquery hreply

/-- Five zones, two at once: a death, silence, an answer at the deadline and two that come too late. -/
theorem checkAddress_in_time_two_at_once :
    let lookup : Lookup := fun name =>
      if name = "10.2.0.192.a.example" then .death "gone" 3
      else if name = "10.2.0.192.b.example" then .silence
      else if name = "10.2.0.192.c.example" then .answer (.addresses [⟨127, 0, 0, 2⟩]) 5
      else .answer .noData 9
    let p : Prober := ⟨fun _ => lookup, 5⟩
    let tracker : HealthTracker := ⟨[.fresh "a.example", .fresh "e.example"], 0⟩
    let zones := ["e.example", "d.example", "c.example", "b.example", "a.example", "c.example"]
    (checkAddress p (some tracker) ⟨192, 0, 2, 10⟩ zones 2).elapsed ≤ 15 ∧
      (∃ span, (p.spans ⟨192, 0, 2, 10⟩ 2 (Text.sortNames zones))[4]? = some ⟨"e.example", span⟩ ∧
        span.start ≤ 10) ∧
      p.probe ⟨192, 0, 2, 10⟩ "c.example" =
        .finding (.ofOutcome ⟨192, 0, 2, 10⟩ "c.example" (.addresses [⟨127, 0, 0, 2⟩])) := by
  intro lookup p tracker zones
  have hbuilt : HealthTracker.Since ["e.example", "a.example"] tracker := .built (by decide)
  obtain ⟨-, ⟨-, hstart, hlast⟩, -, hdeadline⟩ := checkAddress_in_time p ⟨192, 0, 2, 10⟩ zones 2
    (some tracker) fun t ht => ⟨_, Option.some.inj ht ▸ hbuilt⟩
  have hsorted : Text.sortNames zones =
      ["a.example", "b.example", "c.example", "d.example", "e.example"] := by decide
  rw [hsorted] at hlast hstart ⊢
  obtain ⟨span, hspan, hbegun, -⟩ := hstart 4 "e.example" rfl
  exact ⟨hlast, ⟨span, hspan, hbegun⟩,
    (hdeadline "c.example" "10.2.0.192.c.example" _ (by decide +kernel) (by decide)).1⟩

end BlocklistWatch
