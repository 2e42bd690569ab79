import Mathlib.Data.List.Forall2
import Mathlib.Data.List.Nodup
import BlocklistWatch.Proofs.Store.Saving
import BlocklistWatch.Proofs.Store.Update

/-!
# All or nothing

A call to the store changes the row of one number in memory and in the file, or it changes neither,
whatever goes wrong on the disk and however many calls went well or wrong before.

* `FileStore.Call` is a call, `Call.rowsAfter` what the rows are to be after it.
* `FileStore.Atomic` is what a call guarantees about its answer, the rows and the disk, and
  `FileStore.Call.atomic` that every call does.
* `FileStore.apply_atomic` says so after any calls before, and that a file that once agreed with the
  rows keeps agreeing with them.
-/

namespace BlocklistWatch

/-! ## One row among others -/

theorem findRow?_eq_none {rows : List Row} {id : UInt64} (h : findRow? rows id = none) :
    ∀ r ∈ rows, r.id ≠ id := by
  intro r hr hid
  have hnot := List.find?_eq_none.1 h r hr
  simp [hid] at hnot

theorem findRow?_eq_some {rows : List Row} {id : UInt64} {row : Row}
    (h : findRow? rows id = some row) :
    row.id = id ∧ ∃ front back, rows = front ++ row :: back ∧ ∀ r ∈ front, r.id ≠ id := by
  obtain ⟨hid, front, back, hrows, hfront⟩ := List.find?_eq_some_iff_append.1 h
  refine ⟨by simpa using hid, front, back, hrows, fun r hr hr' => ?_⟩
  have hnot := hfront r hr
  simp [hr'] at hnot

theorem findRow?_of_mem {rows : List Row} (hids : (rows.map (·.id)).Nodup) {row : Row}
    (hrow : row ∈ rows) : findRow? rows row.id = some row := by
  cases hfind : findRow? rows row.id with
  | none => exact absurd rfl (findRow?_eq_none hfind row hrow)
  | some found =>
    obtain ⟨hid, front, back, hrows, -⟩ := findRow?_eq_some hfind
    have hfound : found ∈ rows := by
      rw [hrows]
      simp
    rw [List.inj_on_of_nodup_map hids hfound hrow hid]

theorem replaceRow_append {front back : List Row} {old new : Row}
    (hfront : ∀ r ∈ front, r.id ≠ new.id) (hid : old.id = new.id) :
    replaceRow new (front ++ old :: back) = front ++ new :: back := by
  induction front with
  | nil => simp [replaceRow, hid]
  | cons r front ih =>
    have hr := hfront r (by simp)
    rw [List.cons_append, replaceRow, if_neg hr, ih fun r' hr' => hfront r' (by simp [hr'])]
    rfl

namespace FileStore

/-- A call to change the row of a state. -/
structure Call where
  state : IpState
  transition : Transition
  policy : PriorityPolicy

namespace Call

/-- The call made to a store on a disk: its answer, the store and the disk afterwards. -/
def run (c : Call) (w : FileStore × Disk) : Except StoreError Bool × FileStore × Disk :=
  w.1.apply w.2 c.state c.transition c.policy

def runAll (calls : List Call) (w : FileStore × Disk) : FileStore × Disk :=
  calls.foldl (fun w c => (c.run w).2) w

/-- A row after the call: the update of the row of the number, any other row as it was. -/
def rowAfter (c : Call) (r : Row) : Row :=
  if r.id = c.state.id then (r.update? c.transition c.policy).getD r else r

def rowsAfter (c : Call) (rows : List Row) : List Row :=
  rows.map c.rowAfter

/-- What a call may change in the rows: of the row of its number the priorities, the stored zones and
the last event, of any other row nothing. -/
def Touches (c : Call) (old new : Row) : Prop :=
  if old.id = c.state.id then
    new = { old with
      priority := new.priority
      oldPriority := new.oldPriority
      zoneText := new.zoneText
      lastEvent := new.lastEvent }
  else new = old

theorem touches_rowAfter (c : Call) (r : Row) : c.Touches r (c.rowAfter r) := by
  unfold Touches rowAfter
  by_cases hid : r.id = c.state.id
  · rw [if_pos hid, if_pos hid]
    cases hupdate : r.update? c.transition c.policy with
    | none => rfl
    | some r' =>
      rw [Row.of_update? hupdate]
      cases c.transition.kind <;> rfl
  · rw [if_neg hid, if_neg hid]

@[simp] theorem id_rowAfter (c : Call) (r : Row) : (c.rowAfter r).id = r.id := by
  have htouches := c.touches_rowAfter r
  unfold Touches at htouches
  by_cases hid : r.id = c.state.id
  · rw [if_pos hid] at htouches
    rw [htouches]
  · rw [if_neg hid] at htouches
    rw [htouches]

theorem ids_rowsAfter (c : Call) (rows : List Row) :
    (c.rowsAfter rows).map (·.id) = rows.map (·.id) := by
  rw [rowsAfter, List.map_map]
  exact List.map_congr_left fun r _ => c.id_rowAfter r

theorem replaceRow_eq_rowsAfter {c : Call} {rows : List Row} {row changed : Row}
    (hids : (rows.map (·.id)).Nodup) (hfind : findRow? rows c.state.id = some row)
    (hupdate : row.update? c.transition c.policy = some changed) :
    replaceRow changed rows = c.rowsAfter rows := by
  obtain ⟨hid, front, back, rfl, hfront⟩ := findRow?_eq_some hfind
  have hchanged : c.rowAfter row = changed := by
    unfold rowAfter
    rw [if_pos hid, hupdate]
    rfl
  have hid' : changed.id = c.state.id := by rw [← hchanged, id_rowAfter, hid]
  have hback : ∀ r ∈ back, r.id ≠ c.state.id := by
    rw [List.map_append, List.map_cons, List.nodup_append, List.nodup_cons] at hids
    intro r hr hr'
    exact hids.2.1.1 (List.mem_map.2 ⟨r, hr, hr'.trans hid.symm⟩)
  have hsame : ∀ rows : List Row, (∀ r ∈ rows, r.id ≠ c.state.id) → rows.map c.rowAfter = rows := by
    intro rows hrows
    conv_rhs => rw [← List.map_id rows]
    exact List.map_congr_left fun r hr => if_neg (hrows r hr)
  rw [replaceRow_append (by rwa [hid']) (hid.trans hid'.symm), rowsAfter, List.map_append,
    List.map_cons, hsame front hfront, hsame back hback, hchanged]

end Call

/-- What a call guarantees, by what was before, its answer and what is after. -/
structure Atomic (c : Call) (before : FileStore × Disk) (answer : Except StoreError Bool)
    (after : FileStore × Disk) : Prop where
  /-- The store keeps its file. -/
  path : after.1.path = before.1.path
  /-- At every moment, even if everything stops there, the file is as it was or holds all rows as
  they are to be. -/
  whole : ∀ files ∈ after.2.statesSince before.2.past.length,
    files before.1.path = before.2.files before.1.path ∨
      files before.1.path = some (.file (rowsText (c.rowsAfter before.1.rows)))
  /-- After an error the rows and the file are as they were. -/
  undone : ∀ e, answer = .error e →
    after.1 = before.1 ∧ after.2.files before.1.path = before.2.files before.1.path
  /-- Where there was nothing to change, nothing was done to the disk either. -/
  skipped : answer = .ok false → after = before
  /-- A change is in the rows and in the file. -/
  written : answer = .ok true →
    after.1.rows = c.rowsAfter before.1.rows ∧
      after.2.files before.1.path = some (.file (rowsText after.1.rows)) ∧
      List.Forall₂ c.Touches before.1.rows after.1.rows
  /-- A number without a row is an error. -/
  unknown : (∀ r ∈ before.1.rows, r.id ≠ c.state.id) → answer = .error (.noRow c.state.id)
  /-- Any other error is a text that could not be written beside the file or not be moved over it;
  in the latter case it is not left there, unless removing it goes wrong as well. -/
  tidied : ∀ p e, answer = .error (.file p e) →
    let draft := draftPath before.1.path
    let write := FileAction.write draft (rowsText (c.rowsAfter before.1.rows))
    p = before.1.path ∧
      (before.2.step write = (.error e, after.2) ∨
        ∃ d₁ d₂ removed, before.2.step write = (.ok (), d₁) ∧
          d₁.step (.rename draft before.1.path) = (.error e, d₂) ∧
          d₂.step (.remove draft) = (removed, after.2) ∧
          (d₂.mishaps d₂.past.length = none → after.2.files draft = none))
  /-- Where nothing is in the way a row that is to be changed is changed. -/
  succeeds : (∀ n, before.2.mishaps n = none) →
    before.2.files (draftPath before.1.path) ≠ some .directory →
    before.2.files before.1.path ≠ some .directory →
    (∃ r ∈ before.1.rows, c.rowAfter r ≠ r) → answer = .ok true

namespace Call

/-! ## One call -/

theorem forall₂_rowsAfter (c : Call) (rows : List Row) :
    List.Forall₂ c.Touches rows (c.rowsAfter rows) := by
  induction rows with
  | nil => exact .nil
  | cons r rows ih => exact .cons (c.touches_rowAfter r) ih

theorem statesSince_self (d : Disk) : d.statesSince d.past.length = [d.files] :=
  Disk.statesSince_of_past [] rfl

theorem atomic_of_idle {c : Call} {w : FileStore × Disk} {answer : Except StoreError Bool}
    (hrun : c.run w = (answer, w)) (hanswer : answer ≠ .ok true)
    (hfile : ∀ p e, answer ≠ .error (.file p e))
    (hunknown : (∀ r ∈ w.1.rows, r.id ≠ c.state.id) → answer = .error (.noRow c.state.id))
    (hcurrent : ∀ r ∈ w.1.rows, c.rowAfter r = r) :
    Atomic c w (c.run w).1 (c.run w).2 := by
  rw [hrun]
  exact {
    path := rfl
    whole := by
      intro files hfiles
      rw [statesSince_self, List.mem_singleton] at hfiles
      rw [hfiles]
      exact Or.inl rfl
    undone := fun _ _ => ⟨rfl, rfl⟩
    skipped := fun _ => rfl
    written := fun h => absurd h hanswer
    unknown := hunknown
    tidied := fun p e h => absurd h (hfile p e)
    succeeds := fun _ _ _ ⟨r, hr, hne⟩ => absurd (hcurrent r hr) hne }

/-- What a call does where there is a row to change: the rows are changed in memory, saved, and put
back if that fails. -/
theorem run_of_update {c : Call} {s : FileStore} {d : Disk} {row changed : Row}
    (hfind : findRow? s.rows c.state.id = some row)
    (hupdate : row.update? c.transition c.policy = some changed) :
    c.run (s, d) =
      match save s.path (replaceRow changed s.rows) d with
      | (.ok (), d') => (.ok true, { s with rows := replaceRow changed s.rows }, d')
      | (.error e, d') => (.error e, s, d') := by
  obtain ⟨hid, front, back, hrows, hfront⟩ := findRow?_eq_some hfind
  have hchanged : changed.id = row.id := by rw [Row.of_update? hupdate, Row.id_change]
  have hback : replaceRow row (replaceRow changed s.rows) = s.rows := by
    rw [hrows, replaceRow_append (by rwa [hchanged, hid]) hchanged.symm,
      replaceRow_append (by rwa [hid]) hchanged]
  unfold run apply
  simp only [hfind, hupdate]
  rcases save s.path (replaceRow changed s.rows) d with ⟨e | _, d'⟩
  · simp only [hback]
  · rfl

theorem run_of_mem {c : Call} {w : FileStore × Disk} (hids : (w.1.rows.map (·.id)).Nodup)
    {row changed : Row} (hrow : row ∈ w.1.rows) (hid : row.id = c.state.id)
    (hupdate : row.update? c.transition c.policy = some changed) :
    (∃ e disk, c.run w = (.error e, w.1, disk)) ∨
      ∃ disk, c.run w = (.ok true, { w.1 with rows := c.rowsAfter w.1.rows }, disk) := by
  obtain ⟨s, d⟩ := w
  have hfind : findRow? s.rows c.state.id = some row := hid ▸ findRow?_of_mem hids hrow
  have hrun := run_of_update (d := d) hfind hupdate
  rw [replaceRow_eq_rowsAfter hids hfind hupdate] at hrun
  rcases hsave : save s.path (c.rowsAfter s.rows) d with ⟨e | _, disk⟩
  · rw [hsave] at hrun
    exact .inl ⟨e, disk, hrun⟩
  · rw [hsave] at hrun
    exact .inr ⟨disk, hrun⟩

theorem atomic_of_update {c : Call} {w : FileStore × Disk} {row changed : Row}
    (hids : (w.1.rows.map (·.id)).Nodup) (hfind : findRow? w.1.rows c.state.id = some row)
    (hupdate : row.update? c.transition c.policy = some changed) :
    Atomic c w (c.run w).1 (c.run w).2 := by
  obtain ⟨s, d⟩ := w
  obtain ⟨hid, front, back, hrows, -⟩ := findRow?_eq_some hfind
  have hmem : row ∈ s.rows := by rw [hrows]; simp
  obtain ⟨answer, d', hsaving, hsave⟩ := saving_save s.path (replaceRow changed s.rows) d
  rw [replaceRow_eq_rowsAfter hids hfind hupdate] at hsaving hsave
  have hrun := run_of_update (d := d) hfind hupdate
  rw [replaceRow_eq_rowsAfter hids hfind hupdate, hsave] at hrun
  cases answer with
  | error e =>
    rw [hrun]
    exact {
      path := rfl
      whole := hsaving.whole
      undone := fun _ _ => ⟨rfl, hsaving.file_of_error⟩
      skipped := fun h => nomatch h
      written := fun h => nomatch h
      unknown := fun h => absurd hid (h row hmem)
      tidied := by
        intro p e' h
        cases h
        refine ⟨rfl, ?_⟩
        cases hsaving with
        | unwritten hwrite => exact Or.inl hwrite
        | unmoved hwrite hmove hremove =>
          exact Or.inr ⟨_, _, _, hwrite, hmove, hremove, Saving.tidied hwrite hmove hremove⟩
      succeeds := fun hmishaps hdraft hpath _ =>
        nomatch hsaving.ok_of_mishaps_eq_none hmishaps hdraft hpath }
  | ok _ =>
    rw [hrun]
    exact {
      path := rfl
      whole := hsaving.whole
      undone := fun _ h => nomatch h
      skipped := fun h => nomatch h
      written := fun _ => ⟨rfl, hsaving.file_of_ok, c.forall₂_rowsAfter s.rows⟩
      unknown := fun h => absurd hid (h row hmem)
      tidied := fun _ _ h => nomatch h
      succeeds := fun _ _ _ _ => rfl }

theorem atomic (c : Call) {w : FileStore × Disk} (hids : (w.1.rows.map (·.id)).Nodup) :
    Atomic c w (c.run w).1 (c.run w).2 := by
  cases hfind : findRow? w.1.rows c.state.id with
  | none =>
    have hnone := findRow?_eq_none hfind
    have hrun : c.run w = (.error (.noRow c.state.id), w) := by
      unfold run apply
      simp only [hfind]
    exact atomic_of_idle hrun (by simp) (by simp) (fun _ => rfl)
      fun r hr => if_neg (hnone r hr)
  | some row =>
    cases hupdate : row.update? c.transition c.policy with
    | some changed => exact atomic_of_update hids hfind hupdate
    | none =>
      obtain ⟨hid, front, back, hrows, -⟩ := findRow?_eq_some hfind
      have hrun : c.run w = (.ok false, w) := by
        unfold run apply
        simp only [hfind, hupdate]
      have hmem : row ∈ w.1.rows := by rw [hrows]; simp
      refine atomic_of_idle hrun (by simp) (by simp) (fun h => absurd hid (h row hmem)) ?_
      intro r hr
      unfold rowAfter
      by_cases hr' : r.id = c.state.id
      · have hsame : r = row := List.inj_on_of_nodup_map hids hr hmem (hr'.trans hid.symm)
        rw [if_pos hr', hsame, hupdate]
        rfl
      · rw [if_neg hr']

/-! ## Calls after calls -/

def answers : List Call → FileStore × Disk → List (Except StoreError Bool)
  | [], _ => []
  | c :: calls, w => (c.run w).1 :: answers calls (c.run w).2

theorem runAll_cons (c : Call) (calls : List Call) (w : FileStore × Disk) :
    runAll (c :: calls) w = runAll calls (c.run w).2 := rfl

theorem runAll_concat (calls : List Call) (c : Call) (w : FileStore × Disk) :
    runAll (calls ++ [c]) w = (c.run (runAll calls w)).2 := by
  rw [runAll, List.foldl_append]
  rfl

theorem ids_run (c : Call) {w : FileStore × Disk} (hids : (w.1.rows.map (·.id)).Nodup) :
    (c.run w).2.1.rows.map (·.id) = w.1.rows.map (·.id) := by
  have hatomic := c.atomic hids
  cases hanswer : (c.run w).1 with
  | error e => rw [(hatomic.undone e hanswer).1]
  | ok written =>
    cases written with
    | false => rw [hatomic.skipped hanswer]
    | true => rw [(hatomic.written hanswer).1, ids_rowsAfter]

theorem nodup_ids_runAll (calls : List Call) {w : FileStore × Disk}
    (hids : (w.1.rows.map (·.id)).Nodup) : ((runAll calls w).1.rows.map (·.id)).Nodup := by
  induction calls generalizing w with
  | nil => exact hids
  | cons c calls ih =>
    rw [runAll_cons]
    exact ih (by rwa [c.ids_run hids])

end Call

/-- The file of the store holds its rows. -/
def Agrees (w : FileStore × Disk) : Prop :=
  w.2.files w.1.path = some (.file (rowsText w.1.rows))

theorem Call.agrees_run (c : Call) {w : FileStore × Disk} (hids : (w.1.rows.map (·.id)).Nodup)
    (h : Agrees w ∨ (c.run w).1 = .ok true) : Agrees (c.run w).2 := by
  have hatomic := c.atomic hids
  unfold Agrees at h ⊢
  rw [hatomic.path]
  cases hanswer : (c.run w).1 with
  | error e =>
    obtain ⟨hstore, hfile⟩ := hatomic.undone e hanswer
    rw [hfile, hstore]
    exact h.resolve_right (by simp [hanswer])
  | ok written =>
    cases written with
    | false =>
      rw [hatomic.skipped hanswer]
      exact h.resolve_right (by simp [hanswer])
    | true => exact (hatomic.written hanswer).2.1

theorem Call.agrees_runAll (calls : List Call) {w : FileStore × Disk}
    (hids : (w.1.rows.map (·.id)).Nodup) (h : Agrees w ∨ .ok true ∈ Call.answers calls w) :
    Agrees (Call.runAll calls w) := by
  induction calls generalizing w with
  | nil => exact h.resolve_right List.not_mem_nil
  | cons c calls ih =>
    rw [Call.runAll_cons]
    refine ih (by rwa [c.ids_run hids]) ?_
    rcases h with h | h
    · exact Or.inl (c.agrees_run hids (Or.inl h))
    · rcases List.mem_cons.1 h with h | h
      · exact Or.inl (c.agrees_run hids (Or.inr h.symm))
      · exact Or.inr h

/-- Whatever calls were made before and whatever went wrong in them, a call changes the row of its
number in memory and in the file, or it changes neither; and once the file agrees with the rows it
agrees after every call. -/
theorem apply_atomic (s : FileStore) (d : Disk) (hids : (s.rows.map (·.id)).Nodup)
    (earlier : List Call) (c : Call) :
    let before := Call.runAll earlier (s, d)
    Atomic c before (c.run before).1 (c.run before).2 ∧
      (Agrees (s, d) ∨ .ok true ∈ Call.answers (earlier ++ [c]) (s, d) →
        Agrees (c.run before).2) := by
  intro before
  have hbefore : (before.1.rows.map (·.id)).Nodup := Call.nodup_ids_runAll earlier hids
  refine ⟨c.atomic hbefore, fun h => ?_⟩
  rw [← Call.runAll_concat]
  exact Call.agrees_runAll (earlier ++ [c]) hids h

/-- Two calls of which the second cannot be moved over the file. -/
theorem apply_atomic_unmoved :
    let rows : List Row :=
      [⟨1, "192.0.2.1", some 70, none, none, none, []⟩, ⟨2, "192.0.2.2", none, none, none, none, []⟩]
    let disk : Disk := ⟨Files.set (fun _ => none) "ips.json" (some (.file (rowsText rows))), [],
      fun n => if n = 3 then some ⟨.permissionDenied, none⟩ else none⟩
    let call (id : UInt64) : FileStore.Call :=
      ⟨⟨id, ⟨192, 0, 2, 1⟩, 100, none, .empty, none⟩,
        ⟨⟨192, 0, 2, 1⟩, .clean, .listed, ["a.example"], [], ⟨["a.example"], []⟩, true⟩, ⟨0, 50⟩⟩
    let before := Call.runAll [call 1] (⟨"ips.json", rows⟩, disk)
    (rows.map (·.id)).Nodup ∧ Agrees (⟨"ips.json", rows⟩, disk) ∧
      Atomic (call 2) before ((call 2).run before).1 ((call 2).run before).2 ∧
      Agrees ((call 2).run before).2 := by
  intro rows disk call before
  have hids : (rows.map (·.id)).Nodup := by decide
  have hagrees : Agrees (⟨"ips.json", rows⟩, disk) := by simp [Agrees, disk]
  obtain ⟨hatomic, hkept⟩ := apply_atomic ⟨"ips.json", rows⟩ disk hids [call 1] (call 2)
  exact ⟨hids, hagrees, hatomic, hkept (Or.inl hagrees)⟩

end FileStore

end BlocklistWatch
