import BlocklistWatch.Zone.Set

/-!
# Stored texts of zone sets

A set of zones is written as its names with commas between them. Writing loses nothing as long as
no name is empty, has a blank at an end or holds a comma, and reading gives only such names.

* `Text.trimBlanks_trimBlanks`: nothing is left to trim after trimming.
* `ZoneName.Storable` is the condition on a name, `ZoneSet.Storable` on all names of a set.
* `ZoneSet.ofStored_stored`: a storable set is read back as it was written.
* `ZoneSet.storable_ofStored`: whatever text is read, the set is storable.
* `ZoneSet.stored_eq_iff`: on storable sets equal texts are equal sets.
-/

namespace BlocklistWatch

/-! ## Trimming -/

namespace Text

theorem dropTrailing_isPrefix (p : Char → Bool) (cs : List Char) : dropTrailing p cs <+: cs := by
  induction cs with
  | nil => exact List.prefix_refl []
  | cons c cs ih =>
    rw [dropTrailing]
    split
    · by_cases hc : p c = true
      · rw [if_pos hc]
        exact List.nil_prefix
      · rw [if_neg hc]
        exact (List.prefix_cons_inj c).2 List.nil_prefix
    · exact (List.prefix_cons_inj c).2 ih

theorem dropTrailing_dropTrailing (p : Char → Bool) (cs : List Char) :
    dropTrailing p (dropTrailing p cs) = dropTrailing p cs := by
  induction cs with
  | nil => rfl
  | cons c cs ih =>
    rw [dropTrailing]
    split
    · by_cases hc : p c = true
      · rw [if_pos hc]
        rfl
      · rw [if_neg hc, dropTrailing, dropTrailing_nil]
        exact if_neg hc
    · next hne =>
      rw [dropTrailing, ih]
      split
      · next hnil => exact absurd hnil hne
      · rfl

theorem dropWhile_dropTrailing_dropWhile (p q : Char → Bool) (cs : List Char) :
    (dropTrailing q (cs.dropWhile p)).dropWhile p = dropTrailing q (cs.dropWhile p) := by
  obtain ⟨rest, hrest⟩ := dropTrailing_isPrefix q (cs.dropWhile p)
  cases hkept : dropTrailing q (cs.dropWhile p) with
  | nil => rfl
  | cons c kept =>
    rw [hkept] at hrest
    have hhead : (cs.dropWhile p).head? = some c := by rw [← hrest]; rfl
    have hc : p c = false := by
      have := List.head?_dropWhile_not p cs
      rw [hhead] at this
      simpa using this
    rw [List.dropWhile_cons, hc]
    rfl

theorem trimBlanks_trimBlanks (cs : List Char) : trimBlanks (trimBlanks cs) = trimBlanks cs := by
  unfold trimBlanks
  rw [dropWhile_dropTrailing_dropWhile, dropTrailing_dropTrailing]

theorem trimBlanks_subset (cs : List Char) : trimBlanks cs ⊆ cs := by
  intro c hc
  have hdrop : c ∈ cs.dropWhile isBlank := (dropTrailing_isPrefix _ _).subset hc
  exact (List.dropWhile_suffix _).subset hdrop

end Text

/-! ## Names that can be stored -/

namespace ZoneName

/-- A name that is read from a stored text as it was written: not empty, no blank at its ends, no
comma. -/
def Storable (zone : String) : Prop :=
  zone ≠ "" ∧ Text.trim zone = zone ∧ ',' ∉ zone.toList

instance (zone : String) : Decidable (Storable zone) :=
  inferInstanceAs (Decidable (zone ≠ "" ∧ Text.trim zone = zone ∧ ',' ∉ zone.toList))

theorem Storable.trimBlanks_toList {zone : String} (h : Storable zone) :
    Text.trimBlanks zone.toList = zone.toList := by
  rw [← Text.toList_trim, h.2.1]

theorem Storable.toList_ne_nil {zone : String} (h : Storable zone) : zone.toList ≠ [] := by
  intro hnil
  exact h.1 (String.toList_inj.1 (by rw [hnil]; rfl))

end ZoneName

namespace ZoneSet

/-! ## Sets by their members -/

theorem nodup_toList (s : ZoneSet) : s.toList.Nodup :=
  s.increasing.imp String.ne_of_lt

theorem ext_mem {s t : ZoneSet} (h : ∀ z, z ∈ s ↔ z ∈ t) : s = t := by
  obtain ⟨xs, hxs⟩ := s
  obtain ⟨ys, hys⟩ := t
  have heq : xs = ys := by
    refine List.Perm.eq_of_pairwise (fun a b _ _ hab hba => ?_) hxs hys ?_
    · exact absurd (String.lt_trans hab hba) (String.lt_irrefl a)
    · exact (List.perm_ext_iff_of_nodup (nodup_toList ⟨xs, hxs⟩) (nodup_toList ⟨ys, hys⟩)).2 h
  subst heq
  rfl

@[simp] theorem ofList_toList (s : ZoneSet) : ofList s.toList = s :=
  ext_mem fun _ => mem_ofList

theorem isEmpty_iff {s : ZoneSet} : s.isEmpty = true ↔ s.toList = [] :=
  List.isEmpty_iff

/-! ## Reading what was written -/

def Storable (s : ZoneSet) : Prop :=
  ∀ z ∈ s, ZoneName.Storable z

instance (s : ZoneSet) : Decidable s.Storable :=
  inferInstanceAs (Decidable (∀ z ∈ s.toList, ZoneName.Storable z))

theorem mem_ofStored {text z : String} :
    z ∈ ofStored text ↔
      ∃ piece ∈ Text.cutAt ',' text.toList,
        Text.trimBlanks piece ≠ [] ∧ String.ofList (Text.trimBlanks piece) = z := by
  simp only [ofStored, mem_ofList, List.mem_map, List.mem_filter, decide_eq_true_eq]
  constructor
  · rintro ⟨_, ⟨⟨piece, hpiece, rfl⟩, hne⟩, rfl⟩
    exact ⟨piece, hpiece, hne, rfl⟩
  · rintro ⟨piece, hpiece, hne, rfl⟩
    exact ⟨_, ⟨⟨piece, hpiece, rfl⟩, hne⟩, rfl⟩

theorem storable_ofStored (text : String) : (ofStored text).Storable := by
  intro z hz
  obtain ⟨piece, hpiece, hne, rfl⟩ := mem_ofStored.1 hz
  refine ⟨?_, ?_, ?_⟩
  · intro hempty
    exact hne (by simpa using congrArg String.toList hempty)
  · exact String.toList_inj.1 (by rw [Text.toList_trim]; simp [Text.trimBlanks_trimBlanks])
  · intro hcomma
    have hmem : ',' ∈ piece := Text.trimBlanks_subset piece (by simpa using hcomma)
    exact Text.not_mem_of_mem_cutAt hpiece hmem

/-- The pieces of a stored text are the names of the set; only the empty set leaves an empty
piece. -/
theorem mem_cutAt_stored {s : ZoneSet} (h : s.Storable) {piece : List Char} (hne : piece ≠ []) :
    piece ∈ Text.cutAt ',' s.stored.toList ↔ ∃ z ∈ s, z.toList = piece := by
  have htext : s.stored.toList = Text.joinWith ',' (s.toList.map String.toList) := by
    simp [stored, Text.join]
  rw [htext]
  by_cases hs : s.toList = []
  · have hnone : ∀ z, z ∉ s := fun z hz => by
      have : z ∈ s.toList := hz
      rw [hs] at this
      exact List.not_mem_nil this
    rw [hs]
    simp only [List.map_nil, Text.joinWith, Text.cutAt, List.mem_singleton, hne, false_iff]
    rintro ⟨z, hz, -⟩
    exact hnone z hz
  · have hcomma : ∀ p ∈ s.toList.map String.toList, ',' ∉ p := by
      intro p hp
      obtain ⟨z, hz, rfl⟩ := List.mem_map.1 hp
      exact (h z hz).2.2
    rw [Text.cutAt_joinWith (by simpa using hs) hcomma, List.mem_map]
    rfl

/-- A storable set is read back as it was written. -/
theorem ofStored_stored {s : ZoneSet} (h : s.Storable) : ofStored s.stored = s := by
  refine ext_mem fun z => ?_
  rw [mem_ofStored]
  constructor
  · rintro ⟨piece, hpiece, hne, rfl⟩
    have hpiece_ne : piece ≠ [] := by
      rintro rfl
      exact hne rfl
    obtain ⟨z, hz, rfl⟩ := (mem_cutAt_stored h hpiece_ne).1 hpiece
    rw [(h z hz).trimBlanks_toList]
    simpa using hz
  · intro hz
    have hname := h z hz
    refine ⟨z.toList, (mem_cutAt_stored h hname.toList_ne_nil).2 ⟨z, hz, rfl⟩, ?_, ?_⟩
    · rw [hname.trimBlanks_toList]
      exact hname.toList_ne_nil
    · rw [hname.trimBlanks_toList]
      exact String.ofList_toList

theorem stored_eq_iff {s t : ZoneSet} (hs : s.Storable) (ht : t.Storable) :
    s.stored = t.stored ↔ s = t := by
  constructor
  · intro h
    rw [← ofStored_stored hs, h, ofStored_stored ht]
  · intro h
    rw [h]

end ZoneSet

/-- The names of a list in order depend on its members only. -/
theorem Text.sortNames_eq_of_mem_iff {xs ys : List String} (h : ∀ x, x ∈ xs ↔ x ∈ ys) :
    Text.sortNames xs = Text.sortNames ys := by
  have hsets : ZoneSet.ofList xs = ZoneSet.ofList ys :=
    ZoneSet.ext_mem fun x => by rw [ZoneSet.mem_ofList, ZoneSet.mem_ofList, h]
  exact congrArg ZoneSet.toList hsets

end BlocklistWatch
