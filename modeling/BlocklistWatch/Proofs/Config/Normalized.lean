import BlocklistWatch.Config.Validation
import BlocklistWatch.Proofs.Zone.Stored

/-!
# Zone names in form

Checking the settings brings the zone names into form: trimmed, in lower case, none of them empty.
Folding to lower case touches letters only, so a name that was trimmed before is still trimmed after.
A name in form can therefore be stored unless it holds a comma, which nothing in the settings keeps
out.

* `Text.trimBlanks_map_foldChar`: trimming and folding can be done in either order.
* `mem_normalizedZones`: the names in form are those of the given names that are not empty.
* `storable_iff_of_mem_normalizedZones`: of these all those can be stored that hold no comma.
-/

namespace BlocklistWatch

namespace Text

/-! ## Trimming and folding -/

theorem toNat_foldChar {c : Char} (h : 'A' ≤ c ∧ c ≤ 'Z') :
    (foldChar c).toNat = c.toNat + 32 ∧ 65 ≤ c.toNat ∧ c.toNat ≤ 90 := by
  have hlow : 65 ≤ c.toNat := by simpa [Char.le_def, UInt32.le_iff_toNat_le] using h.1
  have hhigh : c.toNat ≤ 90 := by simpa [Char.le_def, UInt32.le_iff_toNat_le] using h.2
  have hvalid : (c.toNat + 32).isValidChar := Or.inl (by omega)
  refine ⟨?_, hlow, hhigh⟩
  rw [foldChar, if_pos h, Char.ofNat, dif_pos hvalid]
  rfl

theorem isBlank_foldChar (c : Char) : isBlank (foldChar c) = isBlank c := by
  by_cases h : 'A' ≤ c ∧ c ≤ 'Z'
  · obtain ⟨hfold, hlow, hhigh⟩ := toNat_foldChar h
    have hletter : ∀ d : Char, 65 ≤ d.toNat → d.toNat ≤ 122 → isBlank d = false := by
      intro d hlow hhigh
      simp only [isBlank, Bool.or_eq_false_iff, Bool.and_eq_false_iff, beq_eq_false_iff_ne,
        decide_eq_false_iff_not]
      omega
    rw [hletter c hlow (by omega), hletter (foldChar c) (by omega) (by omega)]
  · rw [foldChar, if_neg h]

theorem dropTrailing_map {p : Char → Bool} {f : Char → Char} (h : ∀ c, p (f c) = p c)
    (cs : List Char) : dropTrailing p (cs.map f) = (dropTrailing p cs).map f := by
  induction cs with
  | nil => rfl
  | cons c cs ih =>
    rw [List.map_cons, dropTrailing, dropTrailing, ih]
    cases dropTrailing p cs with
    | nil =>
      simp only [List.map_nil, h]
      split <;> rfl
    | cons d kept => rfl

theorem trimBlanks_map_foldChar (cs : List Char) :
    trimBlanks (cs.map foldChar) = (trimBlanks cs).map foldChar := by
  have hdrop : (cs.map foldChar).dropWhile isBlank = (cs.dropWhile isBlank).map foldChar := by
    rw [List.dropWhile_map]
    congr 2
    exact funext isBlank_foldChar
  rw [trimBlanks, hdrop, dropTrailing_map isBlank_foldChar, trimBlanks]

theorem trim_foldCase_trim (s : String) : trim (foldCase (trim s)) = foldCase (trim s) := by
  apply String.toList_inj.1
  rw [toList_trim, toList_foldCase, trimBlanks_map_foldChar, toList_trim, trimBlanks_trimBlanks]

end Text

/-! ## Names in form -/

@[simp] theorem mem_firstOccurrences {x : String} {xs : List String} :
    x ∈ firstOccurrences xs ↔ x ∈ xs := by
  induction xs with
  | nil => rfl
  | cons y ys ih =>
    rw [firstOccurrences_cons, List.mem_cons, List.mem_cons, List.mem_filter, ih]
    by_cases hxy : x = y
    · simp [hxy]
    · simp [hxy]

theorem mem_normalizedZones {zone : String} {zones : List String} :
    zone ∈ normalizedZones zones ↔
      zone ≠ "" ∧ ∃ given ∈ zones, Text.foldCase (Text.trim given) = zone := by
  simp only [normalizedZones, mem_firstOccurrences, List.mem_filter, List.mem_map,
    decide_eq_true_eq]
  exact and_comm

theorem trim_of_mem_normalizedZones {zone : String} {zones : List String}
    (h : zone ∈ normalizedZones zones) : Text.trim zone = zone := by
  obtain ⟨-, given, -, rfl⟩ := mem_normalizedZones.1 h
  exact Text.trim_foldCase_trim given

theorem toList_ne_nil_of_mem_normalizedZones {zone : String} {zones : List String}
    (h : zone ∈ normalizedZones zones) : zone.toList ≠ [] := fun hnil =>
  (mem_normalizedZones.1 h).1 (String.toList_eq_nil_iff.1 hnil)

theorem storable_iff_of_mem_normalizedZones {zone : String} {zones : List String}
    (h : zone ∈ normalizedZones zones) : ZoneName.Storable zone ↔ ',' ∉ zone.toList := by
  have hne : zone ≠ "" := (mem_normalizedZones.1 h).1
  exact ⟨fun hstorable => hstorable.2.2,
    fun hcomma => ⟨hne, trim_of_mem_normalizedZones h, hcomma⟩⟩

theorem ZoneSet.storable_iff_of_normalized {s : ZoneSet} {zones : List String}
    (h : ∀ zone ∈ s, zone ∈ normalizedZones zones) :
    s.Storable ↔ ∀ zone ∈ s, ',' ∉ zone.toList :=
  forall₂_congr fun zone hzone => storable_iff_of_mem_normalizedZones (h zone hzone)

end BlocklistWatch
