import BlocklistWatch.Probe.Prober
import BlocklistWatch.Proofs.Zone.QueryName

/-!
# When a list itself is missing

That a name does not exist is said by a zone. If that zone lies above the zone of the list, the list
does not exist, and nothing is known about the address; said by any other zone, the address is not
listed. Above means by labels: a zone whose name only ends in the same letters says nothing about
the list.

* `ZoneName.labels` cuts a name into its labels, `ZoneName.LiesAbove` compares them.
* `apexMissing_iff` says that the comparison of texts is that of labels.
* `Verdict.ofOutcome_noName` is what the answer means, and that a probe of an address takes it so.
-/

namespace BlocklistWatch

/-! ## Labels -/

namespace Text

theorem dropTrailing_cons_of_not {p : Char → Bool} {c : Char} (h : p c = false) (cs : List Char) :
    dropTrailing p (c :: cs) = c :: dropTrailing p cs := by
  rw [dropTrailing]
  split
  · next hnone => rw [hnone, h, if_neg Bool.false_ne_true]
  · rfl

end Text

namespace ZoneName

/-- The labels of a name without its outer blanks and then without its trailing dots, in lower case,
the topmost last; the root has none. -/
def labels (name : String) : List (List Char) :=
  if plainName name = [] then [] else Text.cutAt '.' (plainName name)

def LiesAbove (above zone : String) : Prop :=
  labels above <:+ labels zone ∧ labels above ≠ labels zone

instance (above zone : String) : Decidable (LiesAbove above zone) :=
  inferInstanceAs (Decidable (labels above <:+ labels zone ∧ labels above ≠ labels zone))

theorem labels_of_ne_nil {name : String} (h : plainName name ≠ []) :
    labels name = Text.cutAt '.' (plainName name) :=
  if_neg h

/-- A zone that can be asked under is not the root: it has a first character other than a dot. -/
theorem plainName_ne_nil {zone accepted : String} (h : accept zone = .ok accepted) :
    plainName zone ≠ [] := by
  obtain ⟨⟨hne, hhead, -⟩, -⟩ := accept_eq_ok_iff.1 h
  obtain ⟨c, cs, hzone⟩ := List.exists_cons_of_ne_nil hne
  have hc : (c == '.') = false := by
    rw [hzone, List.head?_cons] at hhead
    exact beq_eq_false_iff_ne.2 fun hdot => hhead (congrArg some hdot)
  rw [plainName, hzone, Text.dropTrailing_cons_of_not (p := (· == '.')) hc, List.map_cons]
  exact List.cons_ne_nil _ _

theorem liesAbove_of_root {above zone : String} (habove : plainName above = [])
    (hzone : plainName zone ≠ []) : LiesAbove above zone := by
  have hroot : labels above = [] := if_pos habove
  rw [LiesAbove, hroot, labels_of_ne_nil hzone]
  exact ⟨List.nil_suffix, (Text.cutAt_ne_nil _ _).symm⟩

end ZoneName

/-! ## The zone that says no -/

open ZoneName

theorem apexMissing_some {above zone : String} :
    apexMissing (some above) zone = true ↔
      ¬ (plainName above = plainName zone ∨ ('.' :: plainName zone) <:+ plainName above) ∧
        (plainName above = [] ∨ ('.' :: plainName above) <:+ plainName zone) := by
  simp [apexMissing, List.isSuffixOf_iff_suffix]

theorem apexMissing_iff {zone : String} (hzone : plainName zone ≠ []) (authority : Option String) :
    apexMissing authority zone = true ↔ ∃ above ∈ authority, LiesAbove above zone := by
  cases authority with
  | none => simp [apexMissing]
  | some above =>
    simp only [Option.mem_some_iff, exists_eq_left', apexMissing_some]
    by_cases habove : plainName above = []
    · refine iff_of_true ⟨?_, .inl habove⟩ (liesAbove_of_root habove hzone)
      rw [habove, List.suffix_nil]
      rintro (hsame | hbelow)
      · exact hzone hsame.symm
      · exact List.cons_ne_nil _ _ hbelow
    · rw [LiesAbove, labels_of_ne_nil habove, labels_of_ne_nil hzone, ← Text.suffix_iff_cutAt,
        or_iff_right habove]
      refine and_iff_right_of_imp fun hsuffix => ?_
      -- What lies above is shorter, so it is neither the zone nor below it.
      have hshorter := hsuffix.length_le
      rw [List.length_cons] at hshorter
      rintro (hsame | hbelow)
      · rw [hsame] at hshorter
        omega
      · have hlonger := hbelow.length_le
        rw [List.length_cons] at hlonger
        omega

/-- A zone that can be asked under, an address and whatever the answer names as the zone that says
no: the question stays open, because the zone is missing, just if the named one lies above it by
labels. In all other cases the address is not listed. So is it found by a probe whose look-up comes
to that answer in time. -/
theorem Verdict.ofOutcome_noName {zone accepted : String}
    (hzone : ZoneName.accept zone = .ok accepted) (ip : Ipv4) (authority : Option String) :
    let finding : Finding := ⟨ip, zone, .ofOutcome zone (.noName authority)⟩
    (finding.verdict.status = .unknown ∧ finding.verdict.failure = some .nxdomainZone ↔
        ∃ above ∈ authority, LiesAbove above zone) ∧
      (¬ (∃ above ∈ authority, LiesAbove above zone) →
        finding.verdict.status = .notListed ∧ finding.verdict.failure = none) ∧
      ∀ p : Prober, (p.lookup zone (QueryName.ofAddress ip accepted)).await p.timeout =
        .outcome (.noName authority) → p.finding ip zone = finding := by
  intro finding
  rw [← apexMissing_iff (plainName_ne_nil hzone) authority]
  have hverdict : finding.verdict =
      if apexMissing authority zone then .unexplained .nxdomainZone else .notListed := rfl
  have hprobe : ∀ p : Prober, (p.lookup zone (QueryName.ofAddress ip accepted)).await p.timeout =
      .outcome (.noName authority) → p.finding ip zone = finding := by
    intro p hanswer
    have hquery : probeQuery ip zone = .ok (QueryName.ofAddress ip accepted) := by
      rw [probeQuery, hzone]
      rfl
    simp only [Prober.finding, Prober.probe, hquery, hanswer]
    rfl
  by_cases hmissing : apexMissing authority zone = true
  · rw [if_pos hmissing] at hverdict
    rw [hverdict]
    exact ⟨iff_of_true ⟨rfl, rfl⟩ hmissing, fun hthere => absurd hmissing hthere, hprobe⟩
  · rw [if_neg hmissing] at hverdict
    rw [hverdict]
    exact ⟨iff_of_false (fun hopen => absurd hopen.1 nofun) hmissing, fun _ => ⟨rfl, rfl⟩, hprobe⟩

/-- A zone with capitals, outer blanks and a dot at its end. It is missing if a zone above it or the
root says no, but not if a zone does whose name is the tail of its name and cuts a label. -/
theorem Verdict.ofOutcome_noName_cut_label :
    let verdict (authority : String) : Verdict :=
      .ofOutcome " Zen.MyExample.ORG. " (.noName (some authority))
    (∀ authority ∈ ["org", " . ", "myexample.org.."],
      (verdict authority).status = .unknown ∧
        (verdict authority).failure = some .nxdomainZone) ∧
      ∀ authority ∈ ["example.org", "zen.myexample.org", "a.zen.myexample.org", ".org", "net"],
        (verdict authority).status = .notListed ∧ (verdict authority).failure = none := by
  intro verdict
  have hzone : ZoneName.accept " Zen.MyExample.ORG. " = .ok "Zen.MyExample.ORG." := rfl
  have habove : ∀ authority ∈ ["org", " . ", "myexample.org.."],
      LiesAbove authority " Zen.MyExample.ORG. " := by decide +kernel
  have hother : ∀ authority ∈ ["example.org", "zen.myexample.org", "a.zen.myexample.org", ".org",
      "net"], ¬ LiesAbove authority " Zen.MyExample.ORG. " := by decide +kernel
  refine ⟨fun authority hmem => ?_, fun authority hmem => ?_⟩
  · exact (ofOutcome_noName hzone ⟨192, 0, 2, 1⟩ (some authority)).1.2
      ⟨authority, rfl, habove authority hmem⟩
  · refine (ofOutcome_noName hzone ⟨192, 0, 2, 1⟩ (some authority)).2.1 ?_
    rintro ⟨above, hsome, h⟩
    obtain rfl := Option.some.inj hsome
    exact hother authority hmem h

end BlocklistWatch
