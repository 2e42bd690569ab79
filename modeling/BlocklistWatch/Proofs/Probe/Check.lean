import BlocklistWatch.Probe.FanOut
import BlocklistWatch.Proofs.Health.Noting

/-!
# Checks whose probes end in any order

Whatever order the probes of an address end in, and whenever their results are taken, a check holds
at every moment what probing each zone alone finds.

* `Prober.leaves` is what the ended probe of a zone leaves behind, by the zone alone.
* `Check.Sound` is the invariant of a check: what has ended, what was taken, what was counted and why
  a result was refused. `Check.Sound.finish` and `Check.Sound.take` say what keeps it.
* `Check.Sound.complete`: once all results are taken they are those of the single zones, and the
  tracker has counted each zone once.
* `Check.settled_run`: letting the probes end in some order and taking what is there leaves nothing
  to take.
-/

namespace BlocklistWatch

/-! ## Trackers that may be missing -/

def knows (tracker : Option HealthTracker) (zone : String) : Bool :=
  tracker.all fun t => t.zones.contains zone

section NoteIn

variable {tracker : Option HealthTracker} {chosen : String → Bool} {verdict : String → Verdict}
  {f : Finding}

theorem noteIn_of_knows (hnodup : ∀ t ∈ tracker, t.zones.Nodup) (h : knows tracker f.zone = true)
    (hnew : chosen f.zone = false) (hverdict : f.verdict = verdict f.zone) :
    noteIn (tracker.map (·.notedAt chosen verdict)) f =
      .ok (tracker.map (·.notedAt (fun z => z == f.zone || chosen z) verdict)) := by
  cases tracker with
  | none => rfl
  | some t =>
    have hmem : f.zone ∈ t.zones := by simpa [knows] using h
    rw [Option.map_some, noteIn, hverdict,
      HealthTracker.noteVerdict_notedAt (hnodup t rfl) hmem hnew]
    rfl

theorem noteIn_of_not_knows (h : knows tracker f.zone = false) :
    noteIn (tracker.map (·.notedAt chosen verdict)) f = .error (.unknownZone f.zone) := by
  cases tracker with
  | none => exact absurd h (by simp [knows])
  | some t =>
    have hmem : f.zone ∉ t.zones := by simpa [knows] using h
    rw [Option.map_some, noteIn, HealthTracker.noteVerdict_of_not_mem]
    · rfl
    · rwa [HealthTracker.zones_notedAt]

end NoteIn

/-- What the ended probe of a zone leaves behind: a finding that the tracker refuses is an error. -/
def Prober.leaves (p : Prober) (tracker : Option HealthTracker) (ip : Ipv4) (zone : String) :
    Except TrackerError ProbeEnd :=
  match p.probe ip zone with
  | .death reason => .ok (.death reason)
  | .finding f => if knows tracker f.zone then .ok (.finding f) else .error (.unknownZone f.zone)

def Prober.verdict (p : Prober) (ip : Ipv4) (zone : String) : Verdict :=
  (p.finding ip zone).verdict

theorem Prober.leaves_cases (p : Prober) (tracker : Option HealthTracker) (ip : Ipv4)
    (zone : String) :
    (∃ reason, p.probe ip zone = .death reason ∧ p.finding ip zone = .ofDeath ip zone reason ∧
      p.leaves tracker ip zone = .ok (.death reason)) ∨
    (p.probe ip zone = .finding (p.finding ip zone) ∧
      ((knows tracker zone = true ∧
          p.leaves tracker ip zone = .ok (.finding (p.finding ip zone))) ∨
        (knows tracker zone = false ∧
          p.leaves tracker ip zone = .error (.unknownZone zone)))) := by
  unfold leaves
  cases hprobe : p.probe ip zone with
  | death reason => exact .inl ⟨reason, rfl, by rw [finding, hprobe, ProbeEnd.found], rfl⟩
  | finding f =>
    obtain rfl : p.finding ip zone = f := by rw [finding, hprobe, ProbeEnd.found]
    refine .inr ⟨rfl, ?_⟩
    cases hknows : knows tracker zone with
    | true => exact .inl ⟨rfl, by simp [hknows]⟩
    | false => exact .inr ⟨rfl, by simp [hknows]⟩

namespace Check

/-! ## What has ended and what was counted -/

/-- Whether a check is counted by what its probe left behind: when the probe ended with a finding,
and when the result is no longer awaited if the probe died. -/
def countedBy (awaited : Bool) : Option (Except TrackerError ProbeEnd) → Bool
  | some (.ok (.finding _)) => true
  | some (.ok (.death _)) => !awaited
  | _ => false

def counted (c : Check) (zone : String) : Bool :=
  countedBy (c.awaited.contains zone) (c.ended? zone)

theorem ended?_cons {c c' : Check} {zone : String} {left : Except TrackerError ProbeEnd}
    (hended : c'.ended = (zone, left) :: c.ended) (z : String) :
    c'.ended? z = if zone = z then some left else c.ended? z := by
  rw [ended?, ended?, hended, List.find?_cons]
  by_cases h : zone = z
  · simp [h]
  · have hne : (zone == z) = false := beq_eq_false_iff_ne.2 h
    rw [if_neg h]
    simp only [hne]

theorem ended?_of_ended_eq {c c' : Check} (h : c'.ended = c.ended) (zone : String) :
    c'.ended? zone = c.ended? zone := by
  rw [ended?, ended?, h]

theorem counted_of_not_ended {c : Check} {zone : String} (h : c.ended? zone = none) :
    c.counted zone = false := by
  rw [counted, h]
  rfl

theorem counted_cons {c c' : Check} {zone : String} {left : Except TrackerError ProbeEnd}
    (hended : c'.ended = (zone, left) :: c.ended) (hawaited : c'.awaited = c.awaited) (z : String) :
    c'.counted z =
      if zone = z then countedBy (c.awaited.contains zone) (some left) else c.counted z := by
  rw [counted, ended?_cons hended, hawaited]
  by_cases hz : zone = z
  · rw [if_pos hz, if_pos hz, hz]
  · rw [if_neg hz, if_neg hz, counted]

/-- A check that holds at this moment what probing each zone alone finds. -/
structure Sound (p : Prober) (ip : Ipv4) (tracker : Option HealthTracker) (zones : List String)
    (c : Check) : Prop where
  ended : ∀ zone left, c.ended? zone = some left →
    zone ∈ zones ∧ left = p.leaves tracker ip zone
  taken : ∃ done, zones = done ++ c.awaited ∧ c.taken.reverse = done.map (p.finding ip) ∧
    ∀ zone ∈ done, (c.ended? zone).isSome ∧ knows tracker zone = true
  refused : ∀ e, c.refusal = some e →
    ∃ zone rest, c.awaited = zone :: rest ∧ knows tracker zone = false ∧ e = .unknownZone zone
  tracker : c.tracker = tracker.map (·.notedAt c.counted (p.verdict ip))

variable {p : Prober} {ip : Ipv4} {tracker : Option HealthTracker} {zones : List String} {c : Check}

theorem sound_start (p : Prober) (ip : Ipv4) (tracker : Option HealthTracker)
    (zones : List String) : (start tracker zones).Sound p ip tracker zones := by
  refine ⟨(fun _ _ h => nomatch h), ⟨[], rfl, rfl, (fun _ h => nomatch h)⟩,
    (fun _ h => nomatch h), ?_⟩
  have hcounted : (start tracker zones).counted = fun _ => false := rfl
  rw [hcounted]
  cases tracker with
  | none => rfl
  | some t => simp [start, HealthTracker.notedAt_none]

theorem Sound.mem_awaited (h : c.Sound p ip tracker zones) {zone : String} (hzone : zone ∈ zones)
    (hnot : c.ended? zone = none) : zone ∈ c.awaited := by
  obtain ⟨done, hzones, -, hdone⟩ := h.taken
  rw [hzones] at hzone
  rcases List.mem_append.1 hzone with hzone | hzone
  · have := (hdone zone hzone).1
    rw [hnot] at this
    exact absurd this (by simp)
  · exact hzone

theorem Sound.noteIn (h : c.Sound p ip tracker zones) (hnodup : ∀ t ∈ tracker, t.zones.Nodup)
    {zone : String} (hnew : c.counted zone = false) :
    BlocklistWatch.noteIn c.tracker (p.finding ip zone) =
      if knows tracker zone then
        .ok (tracker.map (·.notedAt (fun z => z == zone || c.counted z) (p.verdict ip)))
      else .error (.unknownZone zone) := by
  have hzone : (p.finding ip zone).zone = zone := p.zone_finding ip zone
  rw [h.tracker]
  by_cases hknows : knows tracker zone = true
  · rw [if_pos hknows, noteIn_of_knows hnodup (hzone.symm ▸ hknows) (hzone.symm ▸ hnew)
      (by rw [hzone, Prober.verdict]), hzone]
  · rw [if_neg hknows, noteIn_of_not_knows (by simpa [hzone] using hknows), hzone]

/-! ## What the events keep -/

theorem Sound.ends (h : c.Sound p ip tracker zones) {zone : String} (hzone : zone ∈ zones)
    (hnot : c.ended? zone = none) {c' : Check}
    (hended : c'.ended = (zone, p.leaves tracker ip zone) :: c.ended)
    (hawaited : c'.awaited = c.awaited) (htaken : c'.taken = c.taken)
    (hrefusal : c'.refusal = c.refusal) {chosen : String → Bool}
    (htracker : c'.tracker = tracker.map (·.notedAt chosen (p.verdict ip)))
    (hchosen : ∀ z, chosen z =
      if zone = z then countedBy true (some (p.leaves tracker ip zone)) else c.counted z) :
    c'.Sound p ip tracker zones := by
  have hended? := ended?_cons hended
  refine ⟨?_, ?_, ?_, ?_⟩
  · intro z left hleft
    rw [hended?] at hleft
    by_cases hz : zone = z
    · subst hz
      rw [if_pos rfl] at hleft
      exact ⟨hzone, (Option.some.inj hleft).symm⟩
    · rw [if_neg hz] at hleft
      exact h.ended z left hleft
  · obtain ⟨done, hzones, hdone, hknown⟩ := h.taken
    refine ⟨done, by rw [hawaited, hzones], by rw [htaken, hdone], fun z hz => ⟨?_, (hknown z hz).2⟩⟩
    rw [hended?]
    by_cases hz' : zone = z
    · simp [hz']
    · rw [if_neg hz']
      exact (hknown z hz).1
  · intro e he
    rw [hrefusal] at he
    obtain ⟨z, rest, hrest, hknows⟩ := h.refused e he
    exact ⟨z, rest, by rw [hawaited, hrest], hknows⟩
  · have hmem : c.awaited.contains zone = true :=
      List.contains_iff_mem.2 (h.mem_awaited hzone hnot)
    have hcounted : ∀ z, c'.counted z = chosen z := by
      intro z
      rw [hchosen, counted_cons hended hawaited, hmem]
    rw [htracker, funext hcounted]

theorem Sound.finish (h : c.Sound p ip tracker zones) (hnodup : ∀ t ∈ tracker, t.zones.Nodup)
    {zone : String} (hzone : zone ∈ zones) :
    (c.finish (p.probe ip) zone).Sound p ip tracker zones := by
  unfold Check.finish
  cases hnot : c.ended? zone with
  | some left => exact h
  | none =>
    simp only [Option.isSome_none, Bool.false_eq_true, if_false]
    have hnew : c.counted zone = false := counted_of_not_ended hnot
    have hnote := h.noteIn hnodup hnew
    -- What leaves the count of the zone as it was leaves the whole count as it was.
    have hsame : ∀ z, c.counted z = if zone = z then false else c.counted z := by
      intro z
      by_cases hz : zone = z
      · rw [if_pos hz, ← hz, hnew]
      · rw [if_neg hz]
    rcases p.leaves_cases tracker ip zone with
      ⟨reason, hprobe, -, hleft⟩ | ⟨hprobe, ⟨hknows, hleft⟩ | ⟨hknows, hleft⟩⟩
    · rw [hprobe]
      refine h.ends hzone hnot (by rw [hleft]) rfl rfl rfl h.tracker ?_
      rw [hleft]
      exact hsame
    · rw [hprobe]
      rw [if_pos hknows] at hnote
      simp only [hnote]
      refine h.ends hzone hnot (by rw [hleft]) rfl rfl rfl rfl ?_
      intro z
      by_cases hz : zone = z
      · subst hz
        rw [if_pos rfl, hleft]
        simp [countedBy]
      · have hne : (z == zone) = false := beq_eq_false_iff_ne.2 (Ne.symm hz)
        rw [if_neg hz, hne, Bool.false_or]
    · rw [hprobe]
      rw [if_neg (by simp [hknows])] at hnote
      simp only [hnote]
      refine h.ends hzone hnot (by rw [hleft]) rfl rfl rfl h.tracker ?_
      rw [hleft]
      exact hsame

theorem Sound.takes (h : c.Sound p ip tracker zones) (hdistinct : zones.Nodup) {zone : String}
    {rest : List String} (hrest : c.awaited = zone :: rest)
    (hleft : c.ended? zone = some (p.leaves tracker ip zone)) (hknows : knows tracker zone = true)
    {c' : Check} (hended : c'.ended = c.ended) (hawaited : c'.awaited = rest)
    (htaken : c'.taken = p.finding ip zone :: c.taken) (hrefusal : c'.refusal = none)
    {chosen : String → Bool}
    (htracker : c'.tracker = tracker.map (·.notedAt chosen (p.verdict ip)))
    (hchosen : ∀ z, chosen z = (z == zone || c.counted z)) :
    c'.Sound p ip tracker zones := by
  obtain ⟨done, hzones, hdone, hknown⟩ := h.taken
  rw [hrest] at hzones
  have hended? : ∀ z, c'.ended? z = c.ended? z := ended?_of_ended_eq hended
  refine ⟨?_, ⟨done ++ [zone], ?_, ?_, ?_⟩, ?_, ?_⟩
  · intro z left hz
    rw [hended?] at hz
    exact h.ended z left hz
  · rw [hawaited, hzones, List.append_assoc]
    rfl
  · rw [htaken, List.reverse_cons, hdone, List.map_append]
    rfl
  · intro z hz
    rw [hended?]
    rcases List.mem_append.1 hz with hz | hz
    · exact hknown z hz
    · obtain rfl := List.mem_singleton.1 hz
      exact ⟨by rw [hleft]; rfl, hknows⟩
  · intro e he
    rw [hrefusal] at he
    exact absurd he (by simp)
  · have hnot : rest.contains zone = false := by
      have hnodup : (zone :: rest).Nodup := (List.nodup_append.1 (hzones ▸ hdistinct)).2.1
      simpa using (List.nodup_cons.1 hnodup).1
    have hcounted : ∀ z, c'.counted z = chosen z := by
      intro z
      rw [hchosen, counted, hended?, hawaited]
      by_cases hz : z = zone
      · subst hz
        rw [hleft, hnot]
        rcases p.leaves_cases tracker ip z with
          ⟨reason, -, -, hleaves⟩ | ⟨-, ⟨-, hleaves⟩ | ⟨hknows', -⟩⟩
        · simp [hleaves, countedBy]
        · simp [hleaves, countedBy]
        · exact absurd (hknows.symm.trans hknows') (by simp)
      · have hne : (z == zone) = false := beq_eq_false_iff_ne.2 hz
        rw [hne, Bool.false_or, counted, hrest, List.contains_cons, hne, Bool.false_or]
    rw [htracker, funext hcounted]

theorem Sound.refuses (h : c.Sound p ip tracker zones) {zone : String} {rest : List String}
    (hrest : c.awaited = zone :: rest) (hknows : knows tracker zone = false) :
    ({ c with refusal := some (.unknownZone zone) } : Check).Sound p ip tracker zones := by
  refine ⟨h.ended, h.taken, ?_, h.tracker⟩
  intro e he
  exact ⟨zone, rest, hrest, hknows, (Option.some.inj he).symm⟩

theorem counted_of_death {zone : String} {rest : List String} {reason : String}
    (hrest : c.awaited = zone :: rest) (hleft : c.ended? zone = some (.ok (.death reason))) :
    c.counted zone = false := by
  rw [counted, hleft, hrest, List.contains_cons]
  simp [countedBy]

theorem Sound.take (h : c.Sound p ip tracker zones) (hnodup : ∀ t ∈ tracker, t.zones.Nodup)
    (hdistinct : zones.Nodup) : (c.take ip).Sound p ip tracker zones := by
  unfold Check.take
  split
  · next zone rest hrefusal hrest =>
    cases hleft : c.ended? zone with
    | none => exact h
    | some left =>
      obtain ⟨-, rfl⟩ := h.ended zone left hleft
      rcases p.leaves_cases tracker ip zone with
        ⟨reason, -, hfound, hleaves⟩ | ⟨hprobe, ⟨hknows, hleaves⟩ | ⟨hknows, hleaves⟩⟩
      · -- A dead probe is counted now, under what its death means.
        have hnote := h.noteIn hnodup (counted_of_death hrest (hleaves ▸ hleft))
        rw [hleaves]
        simp only [← hfound]
        by_cases hknows : knows tracker zone = true
        · rw [if_pos hknows] at hnote
          simp only [hnote]
          exact h.takes hdistinct hrest hleft hknows rfl rfl rfl hrefusal rfl fun _ => rfl
        · rw [if_neg hknows] at hnote
          simp only [hnote]
          exact h.refuses hrest (by simpa using hknows)
      · rw [hleaves]
        refine h.takes hdistinct hrest hleft hknows rfl rfl rfl hrefusal h.tracker fun z => ?_
        by_cases hz : z = zone
        · subst hz
          rw [counted, hleft, hleaves]
          simp [countedBy]
        · rw [beq_eq_false_iff_ne.2 hz, Bool.false_or]
      · rw [hleaves]
        exact h.refuses hrest hknows
  · exact h

/-! ## What is counted -/

theorem Sound.not_counted (h : c.Sound p ip tracker zones) {zone : String} (hzone : zone ∉ zones) :
    c.counted zone = false := by
  cases hleft : c.ended? zone with
  | none => exact counted_of_not_ended hleft
  | some left => exact absurd (h.ended zone left hleft).1 hzone

/-- A tracked zone whose result was taken has been counted. -/
theorem Sound.counted_of_taken (h : c.Sound p ip tracker zones) {zone : String}
    (hended : (c.ended? zone).isSome = true) (hknows : knows tracker zone = true)
    (htaken : zone ∉ c.awaited) : c.counted zone = true := by
  obtain ⟨left, hleft⟩ := Option.isSome_iff_exists.1 hended
  obtain ⟨-, rfl⟩ := h.ended zone left hleft
  have hnot : c.awaited.contains zone = false := by simpa using htaken
  rw [counted, hleft, hnot]
  rcases p.leaves_cases tracker ip zone with
    ⟨reason, -, -, hleaves⟩ | ⟨-, ⟨-, hleaves⟩ | ⟨hunknown, -⟩⟩
  · rw [hleaves]
    rfl
  · rw [hleaves]
    rfl
  · exact absurd (hknows.symm.trans hunknown) (by simp)

/-! ## Complete checks -/

/-- The results are taken in the order of the zones, so sorting them leaves them as they are. -/
theorem Sound.results_eq (h : c.Sound p ip tracker zones) (hsorted : zones.Pairwise (· < ·)) :
    c.results = c.taken.reverse := by
  obtain ⟨done, hzones, htaken, -⟩ := h.taken
  have hdone : done.Pairwise (· < ·) := (List.pairwise_append.1 (hzones ▸ hsorted)).1
  rw [results, htaken]
  refine List.mergeSort_of_pairwise (List.pairwise_map.2 (hdone.imp fun hless => ?_))
  rw [Prober.zone_finding, Prober.zone_finding]
  exact decide_eq_true (String.not_lt.1 (String.lt_asymm hless))

/-- When no result is awaited, the check has found at each zone what probing it alone finds, and has
counted each zone once. -/
theorem Sound.complete (h : c.Sound p ip tracker zones) (hdone : c.awaited = []) :
    c.refusal = none ∧ c.taken.reverse = zones.map (p.finding ip) ∧
      c.tracker = tracker.map (·.notedAt (fun z => zones.contains z) (p.verdict ip)) := by
  obtain ⟨done, hzones, htaken, hknown⟩ := h.taken
  rw [hdone, List.append_nil] at hzones
  subst hzones
  refine ⟨?_, htaken, ?_⟩
  · cases hrefusal : c.refusal with
    | none => rfl
    | some e =>
      obtain ⟨zone, rest, hrest, -⟩ := h.refused e hrefusal
      exact absurd (hdone.symm.trans hrest) (by simp)
  · have hcounted : ∀ z, c.counted z = zones.contains z := by
      intro z
      by_cases hz : z ∈ zones
      · rw [List.contains_iff_mem.2 hz]
        exact h.counted_of_taken (hknown z hz).1 (hknown z hz).2 (by simp [hdone])
      · rw [h.not_counted hz]
        exact (by simpa using hz : zones.contains z = false).symm
    rw [h.tracker, funext hcounted]

theorem Sound.not_refused (h : c.Sound p ip tracker zones)
    (hknows : ∀ zone ∈ zones, knows tracker zone = true) : c.refusal = none := by
  cases hrefusal : c.refusal with
  | none => rfl
  | some e =>
    obtain ⟨zone, rest, hrest, hnot, -⟩ := h.refused e hrefusal
    obtain ⟨done, hzones, -⟩ := h.taken
    have hzone : zone ∈ zones := by
      rw [hzones, hrest]
      simp
    exact absurd ((hknows zone hzone).symm.trans hnot) (by simp)

/-! ## Taking what is there -/

/-- Nothing can be taken: a result was refused, or the probe of the next zone has not ended. -/
def Idle (c : Check) : Prop :=
  c.refusal = none → ∀ zone rest, c.awaited = zone :: rest → c.ended? zone = none

theorem Idle.take (h : c.Idle) : c.take ip = c := by
  unfold Check.take
  split
  · next zone rest hrefusal hrest => rw [h hrefusal zone rest hrest]
  · rfl

theorem ended_take (c : Check) (ip : Ipv4) : (c.take ip).ended = c.ended := by
  unfold Check.take
  split
  · split
    · rfl
    · rfl
    · rfl
    · dsimp only
      split <;> rfl
  · rfl

theorem idle_of_refusal {e : TrackerError} (h : c.refusal = some e) : c.Idle := by
  intro hnone
  exact absurd (h.symm.trans hnone) (by simp)

theorem refusal_of_take (h : (c.take ip).refusal = none) : c.refusal = none := by
  cases hrefusal : c.refusal with
  | none => rfl
  | some e =>
    rw [(idle_of_refusal hrefusal).take, hrefusal] at h
    exact absurd h (by simp)

theorem take_of_not_idle (h : ¬ c.Idle) (ip : Ipv4) :
    c.refusal = none ∧ ((c.take ip).refusal.isSome = true ∨
      (c.take ip).awaited.length + 1 = c.awaited.length) := by
  have hrefusal : c.refusal = none := by
    cases hsome : c.refusal with
    | none => rfl
    | some e => exact absurd (idle_of_refusal hsome) h
  refine ⟨hrefusal, ?_⟩
  unfold Check.take
  split
  · next zone rest _ hrest =>
    split
    · next hnot =>
      refine absurd (fun _ z rest' hrest' => ?_) h
      obtain ⟨rfl, -⟩ := List.cons.inj (hrest.symm.trans hrest')
      exact hnot
    · exact .inl rfl
    · right
      rw [hrest, List.length_cons]
    · dsimp only
      split
      · right
        rw [hrest, List.length_cons]
      · exact .inl rfl
  · next hnext =>
    exact absurd (fun _ zone rest hrest => absurd hrest (hnext zone rest hrefusal)) h

theorem Idle.foldl_take (h : c.Idle) (xs : List String) :
    xs.foldl (fun c _ => c.take ip) c = c := by
  induction xs with
  | nil => rfl
  | cons x xs ih => rw [List.foldl_cons, h.take, ih]

theorem idle_foldl_take (xs : List String) (c : Check) (h : c.awaited.length ≤ xs.length) :
    (xs.foldl (fun c _ => c.take ip) c).Idle := by
  induction xs generalizing c with
  | nil =>
    intro _ zone rest hrest
    rw [List.foldl_nil] at hrest
    rw [hrest] at h
    exact absurd h (by simp)
  | cons x xs ih =>
    rw [List.foldl_cons]
    by_cases hidle : c.Idle
    · rw [hidle.take, hidle.foldl_take]
      exact hidle
    · rcases (take_of_not_idle hidle ip).2 with hrefusal | hlength
      · obtain ⟨e, he⟩ := Option.isSome_iff_exists.1 hrefusal
        rw [(idle_of_refusal he).foldl_take]
        exact idle_of_refusal he
      · apply ih
        rw [List.length_cons] at h
        omega

theorem idle_takeReady (c : Check) (ip : Ipv4) : (c.takeReady ip).Idle :=
  idle_foldl_take c.awaited c (Nat.le_refl _)

theorem ended_takeReady (c : Check) (ip : Ipv4) : (c.takeReady ip).ended = c.ended := by
  unfold takeReady
  induction c.awaited generalizing c with
  | nil => rfl
  | cons x xs ih => rw [List.foldl_cons, ih, ended_take]

theorem Sound.takeReady (h : c.Sound p ip tracker zones) (hnodup : ∀ t ∈ tracker, t.zones.Nodup)
    (hdistinct : zones.Nodup) : (c.takeReady ip).Sound p ip tracker zones := by
  unfold Check.takeReady
  induction c.awaited generalizing c with
  | nil => exact h
  | cons x xs ih => exact ih (h.take hnodup hdistinct)

theorem finish_of_ended {probe : String → ProbeEnd} {zone : String}
    (h : (c.ended? zone).isSome = true) : c.finish probe zone = c := by
  rw [Check.finish, if_pos h]

theorem ended_finish (probe : String → ProbeEnd) {zone : String} (h : c.ended? zone = none) :
    ∃ left, (c.finish probe zone).ended = (zone, left) :: c.ended := by
  unfold Check.finish
  rw [if_neg (by simp [h])]
  split
  · exact ⟨_, rfl⟩
  · split <;> exact ⟨_, rfl⟩

theorem finish_frame (c : Check) (probe : String → ProbeEnd) (zone : String) :
    (c.finish probe zone).awaited = c.awaited ∧ (c.finish probe zone).taken = c.taken ∧
      (c.finish probe zone).refusal = c.refusal := by
  unfold Check.finish
  split
  · exact ⟨rfl, rfl, rfl⟩
  · split
    · exact ⟨rfl, rfl, rfl⟩
    · split <;> exact ⟨rfl, rfl, rfl⟩

theorem isSome_ended?_finish (c : Check) (probe : String → ProbeEnd) (zone z : String) :
    ((c.finish probe zone).ended? z).isSome = (zone == z || (c.ended? z).isSome) := by
  cases h : c.ended? zone with
  | some left =>
    rw [finish_of_ended (by rw [h]; rfl)]
    by_cases hz : zone = z
    · subst hz
      simp [h]
    · rw [beq_eq_false_iff_ne.2 hz, Bool.false_or]
  | none =>
    obtain ⟨left, hleft⟩ := ended_finish probe h
    rw [ended?_cons hleft]
    by_cases hzone : zone = z
    · rw [if_pos hzone, beq_iff_eq.2 hzone]
      rfl
    · rw [if_neg hzone, beq_eq_false_iff_ne.2 hzone, Bool.false_or]

/-! ## Whole runs -/

theorem run_of_refusal (h : c.refusal.isSome = true) (order : List String) :
    c.run p ip order = c := by
  induction order with
  | nil => rfl
  | cons zone order ih =>
    rw [Check.run, List.foldl_cons, if_pos h]
    exact ih

/-- What a run that let the probes of some zones end comes to: it is sound, there is nothing to take,
and every probe that should have ended has, unless a result was refused. -/
theorem Sound.run (h : c.Sound p ip tracker zones) (hnodup : ∀ t ∈ tracker, t.zones.Nodup)
    (hdistinct : zones.Nodup) (hidle : c.Idle) {order : List String}
    (horder : ∀ zone ∈ order, zone ∈ zones) :
    (c.run p ip order).Sound p ip tracker zones ∧ (c.run p ip order).Idle ∧
      ((c.run p ip order).refusal = none → ∀ zone, zone ∈ order ∨ (c.ended? zone).isSome = true →
        ((c.run p ip order).ended? zone).isSome = true) := by
  induction order generalizing c with
  | nil => exact ⟨h, hidle, fun _ zone hzone => hzone.resolve_left (by simp)⟩
  | cons zone order ih =>
    have hrest : ∀ z ∈ order, z ∈ zones := fun z hz => horder z (List.mem_cons_of_mem _ hz)
    have hcons : c.run p ip (zone :: order) =
        (if c.refusal.isSome then c
          else (c.finish (p.probe ip) zone).takeReady ip).run p ip order := rfl
    rw [hcons]
    by_cases hrefusal : c.refusal.isSome = true
    · rw [if_pos hrefusal, run_of_refusal hrefusal]
      refine ⟨h, hidle, fun hnone => ?_⟩
      rw [hnone] at hrefusal
      exact absurd hrefusal (by simp)
    · rw [if_neg hrefusal]
      have hfinish := h.finish hnodup (horder zone (List.mem_cons_self ..))
      obtain ⟨hsound, hidle', hended⟩ :=
        ih (hfinish.takeReady hnodup hdistinct) (idle_takeReady _ ip) hrest
      refine ⟨hsound, hidle', fun hnone z hz => hended hnone z ?_⟩
      rw [ended?_of_ended_eq (ended_takeReady _ ip), isSome_ended?_finish, Bool.or_eq_true,
        beq_iff_eq]
      rcases hz with hz | hz
      · rcases List.mem_cons.1 hz with rfl | hz
        · exact .inr (.inl rfl)
        · exact .inl hz
      · exact .inr (.inr hz)

/-- A run in which the probes of all zones end leaves nothing to take unless a result was refused. -/
theorem settled_run (p : Prober) (ip : Ipv4) (hnodup : ∀ t ∈ tracker, t.zones.Nodup)
    (hdistinct : zones.Nodup) {order : List String} (horder : ∀ zone, zone ∈ order ↔ zone ∈ zones) :
    ((start tracker zones).run p ip order).Sound p ip tracker zones ∧
      (((start tracker zones).run p ip order).refusal = none →
        ((start tracker zones).run p ip order).awaited = []) := by
  have hidle : (start tracker zones).Idle := fun _ _ _ _ => rfl
  obtain ⟨hsound, hidle', hended⟩ :=
    (sound_start p ip tracker zones).run hnodup hdistinct hidle fun z hz => (horder z).1 hz
  refine ⟨hsound, fun hrefusal => ?_⟩
  cases hrest : ((start tracker zones).run p ip order).awaited with
  | nil => rfl
  | cons zone rest =>
    obtain ⟨done, hzones, -⟩ := hsound.taken
    have hzone : zone ∈ zones := by
      rw [hzones, hrest]
      simp
    have hnot := hidle' hrefusal zone rest hrest
    have := hended hrefusal zone (.inl ((horder zone).2 hzone))
    rw [hnot] at this
    exact absurd this (by simp)

theorem run_complete (p : Prober) (ip : Ipv4) (hnodup : ∀ t ∈ tracker, t.zones.Nodup)
    (hdistinct : zones.Nodup) (hknows : ∀ zone ∈ zones, knows tracker zone = true)
    {order : List String} (horder : ∀ zone, zone ∈ order ↔ zone ∈ zones) :
    ((start tracker zones).run p ip order).Sound p ip tracker zones ∧
      ((start tracker zones).run p ip order).awaited = [] := by
  obtain ⟨hsound, hsettled⟩ := settled_run p ip hnodup hdistinct horder
  exact ⟨hsound, hsettled (hsound.not_refused hknows)⟩

end Check

end BlocklistWatch
