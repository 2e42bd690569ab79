import BlocklistWatch.Store.FileStore

/-!
# How rows get into their file

The rows are written beside the file of the store and moved over it. Each of the steps can go wrong,
and what stood in the file stands there until the move.

* `Disk.of_step` says what an action leaves, whether it went well or not.
* `Saving` tells the three ways in which saving can go, with the disk after each action, and
  `FileStore.saving_save` says that saving always goes one of them.
* `Saving.whole`: at every moment the file is as before or holds the whole new text.
* `Saving.tidied`: a text that could not be moved is not left beside the file.
-/

namespace BlocklistWatch

namespace Disk

/-! ## One action -/

/-- What an action leaves: on success the files that it is to make, on failure the files as they
were, up to a part of a text that was being written. -/
theorem of_step {d d' : Disk} {action : FileAction} {answer : Except FileError Unit}
    (h : d.step action = (answer, d')) :
    d'.past = (action, d.files) :: d.past ∧ d'.mishaps = d.mishaps ∧
      ((answer = .ok () ∧ perform d.files action = .ok d'.files) ∨
        ∃ e, answer = .error e ∧
          ((perform d.files action = .error e ∧ d'.files = d.files) ∨
            ∃ m, d.mishaps d.past.length = some m ∧ d'.files = leftBy d.files action m)) := by
  unfold step at h
  cases hm : d.mishaps d.past.length with
  | some m =>
    simp only [hm, Prod.mk.injEq] at h
    obtain ⟨rfl, rfl⟩ := h
    exact ⟨rfl, rfl, Or.inr ⟨m.error, rfl, Or.inr ⟨m, rfl, rfl⟩⟩⟩
  | none =>
    cases hp : perform d.files action with
    | ok files =>
      simp only [hm, hp, Prod.mk.injEq] at h
      obtain ⟨rfl, rfl⟩ := h
      exact ⟨rfl, rfl, Or.inl ⟨rfl, rfl⟩⟩
    | error e =>
      simp only [hm, hp, Prod.mk.injEq] at h
      obtain ⟨rfl, rfl⟩ := h
      exact ⟨rfl, rfl, Or.inr ⟨e, rfl, Or.inl ⟨rfl, rfl⟩⟩⟩

theorem step_of_mishaps_eq_none {d : Disk} {action : FileAction}
    (h : d.mishaps d.past.length = none) {files : Files}
    (hp : perform d.files action = .ok files) :
    d.step action = (.ok (), { d with files := files, past := (action, d.files) :: d.past }) := by
  unfold step
  simp only [h, hp]

theorem past_of_step {d d' : Disk} {action : FileAction} {answer : Except FileError Unit}
    (h : d.step action = (answer, d')) : d'.past = (action, d.files) :: d.past :=
  (of_step h).1

theorem perform_of_step {d d' : Disk} {action : FileAction} (h : d.step action = (.ok (), d')) :
    perform d.files action = .ok d'.files := by
  obtain ⟨-, -, ⟨-, hp⟩ | ⟨e, he, -⟩⟩ := of_step h
  · exact hp
  · exact absurd he (by simp)

theorem files_of_failed_write {d d' : Disk} {path content p : String} {e : FileError}
    (h : d.step (.write path content) = (.error e, d')) (hp : p ≠ path) :
    d'.files p = d.files p := by
  obtain ⟨-, -, ⟨he, -⟩ | ⟨e, -, ⟨-, hf⟩ | ⟨m, -, hf⟩⟩⟩ := of_step h
  · exact absurd he (by simp)
  · rw [hf]
  · rw [hf]
    cases hleaves : m.leaves with
    | none => simp [leftBy, hleaves]
    | some part =>
      simp only [leftBy, hleaves]
      exact Files.set_other _ _ hp

theorem files_of_failed_rename {d d' : Disk} {source target : String} {e : FileError}
    (h : d.step (.rename source target) = (.error e, d')) : d'.files = d.files := by
  obtain ⟨-, -, ⟨he, -⟩ | ⟨e, -, ⟨-, hf⟩ | ⟨m, -, hf⟩⟩⟩ := of_step h
  · exact absurd he (by simp)
  · exact hf
  · exact hf

theorem files_of_write {d d' : Disk} {path content : String}
    (h : d.step (.write path content) = (.ok (), d')) :
    d'.files = d.files.set path (some (.file content)) := by
  have hp := perform_of_step h
  simp only [perform] at hp
  split at hp
  · exact absurd hp (by simp)
  · exact (Except.ok.inj hp).symm

theorem files_of_rename {d d' : Disk} {source target : String}
    (h : d.step (.rename source target) = (.ok (), d')) :
    d'.files target = d.files source := by
  have hp := perform_of_step h
  simp only [perform] at hp
  split at hp
  · exact absurd hp (by simp)
  · next entry hentry =>
    split at hp
    · exact absurd hp (by simp)
    · rw [← Except.ok.inj hp, Files.set_same, hentry]

theorem files_of_remove {d d' : Disk} {path p : String} {answer : Except FileError Unit}
    (h : d.step (.remove path) = (answer, d')) (hp : p ≠ path) : d'.files p = d.files p := by
  obtain ⟨-, -, ⟨-, hperform⟩ | ⟨e, -, ⟨-, hf⟩ | ⟨m, -, hf⟩⟩⟩ := of_step h
  · simp only [perform] at hperform
    split at hperform
    · exact absurd hperform (by simp)
    · exact absurd hperform (by simp)
    · rw [← Except.ok.inj hperform, Files.set_other _ _ hp]
  · rw [hf]
  · rw [hf]
    rfl

theorem statesSince_of_past {d d' : Disk} (new : List (FileAction × Files))
    (h : d'.past = new ++ d.past) :
    d'.statesSince d.past.length = d'.files :: new.map (·.2) := by
  unfold statesSince
  rw [h, List.length_append, Nat.add_sub_cancel, List.take_left]

end Disk

namespace FileStore

/-! ## The ways of saving -/

theorem ne_draftPath (path : String) : path ≠ draftPath path := by
  intro h
  have hlength := congrArg String.length h
  rw [draftPath, String.length_append] at hlength
  have hsuffix : ".tmp".length = 4 := by decide
  omega

/-- The ways in which a text gets into the file of a path, or does not, and what they leave. -/
inductive Saving (path text : String) (d : Disk) : Except FileError Unit → Disk → Prop where
  /-- The text could not be written beside the file. -/
  | unwritten {e : FileError} {d₁ : Disk}
      (hwrite : d.step (.write (draftPath path) text) = (.error e, d₁)) :
      Saving path text d (.error e) d₁
  /-- It was written but could not be moved over the file, and was to be removed. -/
  | unmoved {e : FileError} {d₁ d₂ d₃ : Disk} {answer : Except FileError Unit}
      (hwrite : d.step (.write (draftPath path) text) = (.ok (), d₁))
      (hmove : d₁.step (.rename (draftPath path) path) = (.error e, d₂))
      (hremove : d₂.step (.remove (draftPath path)) = (answer, d₃)) :
      Saving path text d (.error e) d₃
  /-- It was written and moved over the file. -/
  | moved {d₁ d₂ : Disk}
      (hwrite : d.step (.write (draftPath path) text) = (.ok (), d₁))
      (hmove : d₁.step (.rename (draftPath path) path) = (.ok (), d₂)) :
      Saving path text d (.ok ()) d₂

theorem saving_save (path : String) (rows : List Row) (d : Disk) :
    ∃ answer d', Saving path (rowsText rows) d answer d' ∧
      save path rows d = (answer.mapError (StoreError.file path), d') := by
  rcases hwrite : d.step (.write (draftPath path) (rowsText rows)) with ⟨e | _, d₁⟩
  · refine ⟨.error e, d₁, .unwritten hwrite, ?_⟩
    unfold save
    simp only [hwrite]
    rfl
  · rcases hmove : d₁.step (.rename (draftPath path) path) with ⟨e | _, d₂⟩
    · rcases hremove : d₂.step (.remove (draftPath path)) with ⟨answer, d₃⟩
      refine ⟨.error e, d₃, .unmoved hwrite hmove hremove, ?_⟩
      unfold save
      simp only [hwrite, hmove, hremove]
      rfl
    · refine ⟨.ok (), d₂, .moved hwrite hmove, ?_⟩
      unfold save
      simp only [hwrite, hmove]
      rfl

/-! ## What saving leaves -/

namespace Saving

variable {path text : String} {d d' : Disk}

theorem file_of_error {e : FileError} (h : Saving path text d (.error e) d') :
    d'.files path = d.files path := by
  cases h with
  | unwritten hwrite => exact Disk.files_of_failed_write hwrite (ne_draftPath path)
  | unmoved hwrite hmove hremove =>
    rw [Disk.files_of_remove hremove (ne_draftPath path), Disk.files_of_failed_rename hmove,
      Disk.files_of_write hwrite, Files.set_other _ _ (ne_draftPath path)]

theorem file_of_ok (h : Saving path text d (.ok ()) d') :
    d'.files path = some (.file text) := by
  cases h with
  | moved hwrite hmove =>
    rw [Disk.files_of_rename hmove, Disk.files_of_write hwrite, Files.set_same]

theorem whole {answer : Except FileError Unit} (h : Saving path text d answer d') :
    ∀ files ∈ d'.statesSince d.past.length,
      files path = d.files path ∨ files path = some (.file text) := by
  -- The states are those before the actions and the last one; only a move changes the file.
  cases h with
  | unwritten hwrite =>
    have hpast := Disk.past_of_step hwrite
    rw [Disk.statesSince_of_past [_] hpast]
    intro files hfiles
    rcases List.mem_cons.1 hfiles with rfl | hfiles
    · exact Or.inl (Saving.unwritten hwrite).file_of_error
    · rw [List.mem_singleton.1 hfiles]
      exact Or.inl rfl
  | unmoved hwrite hmove hremove =>
    have hbefore := Disk.past_of_step hwrite
    have hpast := Disk.past_of_step hremove
    have hkept : ∀ {p}, p ≠ draftPath path → _ := fun {p} hp =>
      (congrFun (Disk.files_of_write hwrite) p).trans (Files.set_other _ _ hp)
    have hdraft := hkept (ne_draftPath path)
    rw [Disk.past_of_step hmove, hbefore] at hpast
    rw [Disk.statesSince_of_past [_, _, _] hpast]
    intro files hfiles
    simp only [List.map_cons, List.map_nil, List.mem_cons, List.not_mem_nil, or_false] at hfiles
    rcases hfiles with rfl | rfl | rfl | rfl
    · exact Or.inl (Saving.unmoved hwrite hmove hremove).file_of_error
    · rw [Disk.files_of_failed_rename hmove]
      exact Or.inl hdraft
    · exact Or.inl hdraft
    · exact Or.inl rfl
  | moved hwrite hmove =>
    have hbefore := Disk.past_of_step hwrite
    have hpast := Disk.past_of_step hmove
    rw [hbefore] at hpast
    rw [Disk.statesSince_of_past [_, _] hpast]
    intro files hfiles
    simp only [List.map_cons, List.map_nil, List.mem_cons, List.not_mem_nil, or_false] at hfiles
    rcases hfiles with rfl | rfl | rfl
    · exact Or.inr (Saving.moved hwrite hmove).file_of_ok
    · rw [Disk.files_of_write hwrite, Files.set_other _ _ (ne_draftPath path)]
      exact Or.inl rfl
    · exact Or.inl rfl

/-- A text that could not be moved is not left beside the file, unless removing it goes wrong from
outside. -/
theorem tidied {e : FileError} {d₁ d₂ d₃ : Disk} {answer : Except FileError Unit}
    (hwrite : d.step (.write (draftPath path) text) = (.ok (), d₁))
    (hmove : d₁.step (.rename (draftPath path) path) = (.error e, d₂))
    (hremove : d₂.step (.remove (draftPath path)) = (answer, d₃))
    (hremovable : d₂.mishaps d₂.past.length = none) : d₃.files (draftPath path) = none := by
  have hfile : d₂.files (draftPath path) = some (.file text) := by
    rw [Disk.files_of_failed_rename hmove, Disk.files_of_write hwrite, Files.set_same]
  have hperform : Disk.perform d₂.files (.remove (draftPath path)) =
      .ok (d₂.files.set (draftPath path) none) := by
    simp only [Disk.perform, hfile]
  rw [Disk.step_of_mishaps_eq_none hremovable hperform, Prod.mk.injEq] at hremove
  rw [← hremove.2]
  exact Files.set_same _ _ _

theorem ok_of_mishaps_eq_none {answer : Except FileError Unit} (h : Saving path text d answer d')
    (hmishaps : ∀ n, d.mishaps n = none)
    (hdraft : d.files (draftPath path) ≠ some .directory) (hpath : d.files path ≠ some .directory) :
    answer = .ok () := by
  cases h with
  | unwritten hwrite =>
    have hperform : Disk.perform d.files (.write (draftPath path) text) =
        .ok (d.files.set (draftPath path) (some (.file text))) := by
      simp only [Disk.perform]
    rw [Disk.step_of_mishaps_eq_none (hmishaps _) hperform] at hwrite
    exact absurd (congrArg Prod.fst hwrite) (by simp)
  | unmoved hwrite hmove hremove =>
    rename_i d₁ _ _
    have hfree : d₁.mishaps d₁.past.length = none := by
      rw [(Disk.of_step hwrite).2.1]
      exact hmishaps _
    have hsource : d₁.files (draftPath path) = some (.file text) := by
      rw [Disk.files_of_write hwrite, Files.set_same]
    have htarget : d₁.files path ≠ some .directory := by
      rw [Disk.files_of_write hwrite, Files.set_other _ _ (ne_draftPath path)]
      exact hpath
    have hperform : Disk.perform d₁.files (.rename (draftPath path) path) =
        .ok ((d₁.files.set (draftPath path) none).set path (some (.file text))) := by
      simp only [Disk.perform, hsource]
    rw [Disk.step_of_mishaps_eq_none hfree hperform] at hmove
    exact absurd (congrArg Prod.fst hmove) (by simp)
  | moved hwrite hmove => rfl

end Saving

end FileStore

end BlocklistWatch
