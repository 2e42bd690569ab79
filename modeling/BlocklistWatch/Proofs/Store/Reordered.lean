import Mathlib.Data.List.Nodup
import BlocklistWatch.Proofs.Store.Reopening

/-!
# Rows in another order

A store sorts its rows when it is opened and never reads its file again. Two files with the same rows
in different orders therefore open to the same store, and whatever is changed in it, the same happens
to both disks: they hold the same but for the old text of the file, as long as it stands there.

* `readRows_eq_of_perm`: rows with distinct numbers are read in the same order from both texts.
* `Disk.AgreeBut` is the relation between two such disks, `Disk.AgreeBut.step` says that an action keeps
  it which does not move the file away.
* `FileStore.apply_agreeBut`: a call gives the same answer and the same rows on both.
-/

namespace BlocklistWatch

/-! ## Reading -/

theorem mergeSort_eq_of_perm {rows rows' : List Row} (hperm : rows.Perm rows')
    (hids : (rows.map (·.id)).Nodup) :
    (rows'.mergeSort fun a b => decide (a.id ≤ b.id)) =
      rows.mergeSort fun a b => decide (a.id ≤ b.id) := by
  have hsame : (rows'.mergeSort fun a b => decide (a.id ≤ b.id)).Perm
      (rows.mergeSort fun a b => decide (a.id ≤ b.id)) :=
    (List.mergeSort_perm rows' _).trans (hperm.symm.trans (List.mergeSort_perm rows _).symm)
  refine hsame.eq_of_pairwise (fun a b ha hb hab hba => ?_)
    (List.pairwise_map.1 (byId_mergeSort rows')) (List.pairwise_map.1 (byId_mergeSort rows))
  -- No other row has the number of a row.
  have ha' : a ∈ rows := hperm.mem_iff.2 (List.mem_mergeSort.1 ha)
  have hb' : b ∈ rows := List.mem_mergeSort.1 hb
  exact List.inj_on_of_nodup_map hids ha' hb' (UInt64.le_antisymm hab hba)

theorem readRows_eq_of_perm {content content' : String} {rows rows' : List Row}
    (hrows : (Json.Decoder.list Row.decoder).run content = .ok rows)
    (hrows' : (Json.Decoder.list Row.decoder).run content' = .ok rows') (hperm : rows.Perm rows')
    (hids : (rows.map (·.id)).Nodup) : readRows content' = readRows content := by
  rw [readRows, readRows, hrows, hrows']
  exact congrArg Except.ok (mergeSort_eq_of_perm hperm hids)

/-! ## Disks that differ in one text -/

/-- Two collections of files agree, except that a file of one path may still hold a text of its own in
each. -/
def Files.AgreeBut (path content content' : String) (files files' : Files) : Prop :=
  ∀ p, files' p = files p ∨
    p = path ∧ files p = some (.file content) ∧ files' p = some (.file content')

/-- Two disks agree so, had the same actions so far, and the same goes wrong on both. -/
structure Disk.AgreeBut (path content content' : String) (d d' : Disk) : Prop where
  files : Files.AgreeBut path content content' d.files d'.files
  actions : d'.past.map (·.1) = d.past.map (·.1)
  mishaps : d'.mishaps = d.mishaps

section AgreeBut

variable {path content content' : String}

namespace Files.AgreeBut

variable {files files' : Files}

theorem set (h : AgreeBut path content content' files files') (p : String) (entry : Option Entry) :
    AgreeBut path content content' (files.set p entry) (files'.set p entry) := by
  intro q
  by_cases hq : q = p
  · rw [hq, Files.set_same, Files.set_same]
    exact .inl rfl
  · rw [Files.set_other _ _ hq, Files.set_other _ _ hq]
    exact h q

theorem eq_directory_iff (h : AgreeBut path content content' files files') (p : String) :
    files' p = some .directory ↔ files p = some .directory := by
  rcases h p with heq | ⟨-, hfile, hfile'⟩
  · rw [heq]
  · rw [hfile, hfile']
    simp

theorem leftBy (h : AgreeBut path content content' files files') (action : FileAction)
    (m : Mishap) :
    AgreeBut path content content' (Disk.leftBy files action m) (Disk.leftBy files' action m) := by
  cases action with
  | write p text =>
    cases hleaves : m.leaves with
    | none => simpa [Disk.leftBy, hleaves] using h
    | some part => simpa [Disk.leftBy, hleaves] using h.set p (some (.file part))
  | rename | remove | makeDirectory => exact h

end Files.AgreeBut

namespace Disk

variable {files files' : Files}

/-! ## What an action comes to -/

theorem perform_write_of_ne {p : String} (text : String) (h : files p ≠ some .directory) :
    perform files (.write p text) = .ok (files.set p (some (.file text))) := by
  simp only [perform]

theorem perform_rename_of_ne {source target : String} {entry : Entry}
    (hsource : files source = some entry) (htarget : files target ≠ some .directory) :
    perform files (.rename source target) =
      .ok ((files.set source none).set target (some entry)) := by
  simp only [perform, hsource]

/-- An action that does not move the file away goes the same on both. -/
theorem perform_agreeBut (h : Files.AgreeBut path content content' files files')
    {action : FileAction} (haction : ∀ target, action ≠ .rename path target) :
    (∃ e, perform files action = .error e ∧ perform files' action = .error e) ∨
      ∃ after after', perform files action = .ok after ∧ perform files' action = .ok after' ∧
        Files.AgreeBut path content content' after after' := by
  cases action with
  | write p text =>
    by_cases hdirectory : files p = some .directory
    · refine .inl ⟨.isDirectory, ?_, ?_⟩
      · simp only [perform, hdirectory]
      · simp only [perform, (h.eq_directory_iff p).2 hdirectory]
    · have hdirectory' : files' p ≠ some .directory := mt (h.eq_directory_iff p).1 hdirectory
      exact .inr ⟨_, _, perform_write_of_ne text hdirectory, perform_write_of_ne text hdirectory',
        h.set p _⟩
  | rename source target =>
    have hsame : files' source = files source := by
      rcases h source with heq | ⟨hpath, -⟩
      · exact heq
      · exact absurd (congrArg (FileAction.rename · target) hpath) (haction target)
    cases hsource : files source with
    | none =>
      refine .inl ⟨.notFound, ?_, ?_⟩
      · simp only [perform, hsource]
      · simp only [perform, hsame, hsource]
    | some entry =>
      by_cases hdirectory : files target = some .directory
      · refine .inl ⟨.isDirectory, ?_, ?_⟩
        · simp only [perform, hsource, hdirectory]
        · simp only [perform, hsame, hsource, (h.eq_directory_iff target).2 hdirectory]
      · have hdirectory' := mt (h.eq_directory_iff target).1 hdirectory
        exact .inr ⟨_, _, perform_rename_of_ne hsource hdirectory,
          perform_rename_of_ne (hsame.trans hsource) hdirectory',
          (h.set source none).set target (some entry)⟩
  | remove p =>
    rcases h p with heq | ⟨-, hfile, hfile'⟩
    · cases hentry : files p with
      | none => exact .inl ⟨.notFound, by simp only [perform, hentry],
          by simp only [perform, heq, hentry]⟩
      | some entry =>
        cases entry with
        | directory => exact .inl ⟨.isDirectory, by simp only [perform, hentry],
            by simp only [perform, heq, hentry]⟩
        | file text => exact .inr ⟨_, _, by simp only [perform, hentry],
            by simp only [perform, heq, hentry], h.set p none⟩
    · exact .inr ⟨_, _, by simp only [perform, hfile], by simp only [perform, hfile'],
        h.set p none⟩
  | makeDirectory p =>
    rcases h p with heq | ⟨-, hfile, hfile'⟩
    · cases hentry : files p with
      | none => exact .inr ⟨_, _, by simp only [perform, hentry], by simp only [perform, heq, hentry],
          h.set p (some .directory)⟩
      | some entry =>
        cases entry with
        | directory => exact .inr ⟨files, files', by simp only [perform, hentry],
            by simp only [perform, heq, hentry], h⟩
        | file text => exact .inl ⟨.alreadyExists, by simp only [perform, hentry],
            by simp only [perform, heq, hentry]⟩
    · exact .inl ⟨.alreadyExists, by simp only [perform, hfile], by simp only [perform, hfile']⟩

theorem AgreeBut.step {d d' : Disk} (h : AgreeBut path content content' d d')
    (action : FileAction) (haction : ∀ target, action ≠ .rename path target) :
    (d'.step action).1 = (d.step action).1 ∧
      AgreeBut path content content' (d.step action).2 (d'.step action).2 := by
  have hlength : d'.past.length = d.past.length := by
    simpa using congrArg List.length h.actions
  have hactions : ((action, d'.files) :: d'.past).map (·.1) =
      ((action, d.files) :: d.past).map (·.1) := by
    rw [List.map_cons, List.map_cons, h.actions]
  unfold Disk.step
  rw [h.mishaps, hlength]
  cases d.mishaps d.past.length with
  | some m => exact ⟨rfl, h.files.leftBy action m, hactions, rfl⟩
  | none =>
    rcases perform_agreeBut h.files haction with
      ⟨e, hd, hd'⟩ | ⟨after, after', hd, hd', hafter⟩
    · simp only [hd, hd']
      exact ⟨trivial, h.files, hactions, rfl⟩
    · simp only [hd, hd']
      exact ⟨trivial, hafter, hactions, rfl⟩

end Disk

/-! ## Calls -/

namespace FileStore

theorem save_agreeBut {d d' : Disk} (h : Disk.AgreeBut path content content' d d')
    (rows : List Row) :
    (save path rows d').1 = (save path rows d).1 ∧
      Disk.AgreeBut path content content' (save path rows d).2 (save path rows d').2 := by
  have hdraft : draftPath path ≠ path := (ne_draftPath path).symm
  have hwritten := h.step (.write (draftPath path) (rowsText rows)) (by simp)
  unfold save
  rcases hwrite : d.step (.write (draftPath path) (rowsText rows)) with ⟨answer, d₁⟩
  rcases hwrite' : d'.step (.write (draftPath path) (rowsText rows)) with ⟨answer', d₁'⟩
  rw [hwrite, hwrite'] at hwritten
  obtain ⟨rfl, h₁⟩ := hwritten
  cases answer' with
  | error e => exact ⟨rfl, h₁⟩
  | ok _ =>
    have hmoved := h₁.step (.rename (draftPath path) path) (by simp [hdraft])
    simp only
    rcases hmove : d₁.step (.rename (draftPath path) path) with ⟨answer, d₂⟩
    rcases hmove' : d₁'.step (.rename (draftPath path) path) with ⟨answer', d₂'⟩
    rw [hmove, hmove'] at hmoved
    obtain ⟨rfl, h₂⟩ := hmoved
    cases answer' with
    | ok _ => exact ⟨rfl, h₂⟩
    | error e => exact ⟨rfl, (h₂.step (.remove (draftPath path)) (by simp)).2⟩

theorem apply_agreeBut {s : FileStore} {d d' : Disk}
    (h : Disk.AgreeBut s.path content content' d d') (state : IpState) (t : Transition)
    (policy : PriorityPolicy) :
    (s.apply d' state t policy).1 = (s.apply d state t policy).1 ∧
      (s.apply d' state t policy).2.1 = (s.apply d state t policy).2.1 ∧
      Disk.AgreeBut s.path content content' (s.apply d state t policy).2.2
        (s.apply d' state t policy).2.2 := by
  cases hfind : findRow? s.rows state.id with
  | none =>
    simp only [apply, hfind]
    exact ⟨trivial, trivial, h⟩
  | some row =>
    cases hupdate : row.update? t policy with
    | none =>
      simp only [apply, hfind, hupdate]
      exact ⟨trivial, trivial, h⟩
    | some changed =>
      have hsaved := save_agreeBut h (replaceRow changed s.rows)
      rcases hsave : save s.path (replaceRow changed s.rows) d with ⟨answer, d₁⟩
      rcases hsave' : save s.path (replaceRow changed s.rows) d' with ⟨answer', d₁'⟩
      rw [hsave, hsave'] at hsaved
      obtain ⟨rfl, h₁⟩ := hsaved
      simp only [apply, hfind, hupdate, hsave, hsave']
      cases answer' with
      | ok _ => exact ⟨rfl, rfl, h₁⟩
      | error e => exact ⟨rfl, rfl, h₁⟩

end FileStore

end AgreeBut

end BlocklistWatch
