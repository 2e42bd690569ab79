import BlocklistWatch.Proofs.Store.Reopening

/-!
# Which row a call changes

A call to the store names its row by a number alone, and the first row of that number is the one it
changes. A file may hold a number twice, also once for an address that cannot be read. The row that a
state was fetched from is therefore the row that is changed just as far as no row before it has its
number.

* `FileStore.Call.run_cases_row`: a call leaves the rows as they are, or it puts the update of the row
  that it finds in place of it.
* `FileStore.Call.target` is the place of that row, `FileStore.Call.getElem?_run` says that no other
  place changes and `FileStore.Call.keys_runAll` that numbers and addresses never do.
* `FileStore.apply_changes_own_row` puts these together over any calls in between.
-/

namespace BlocklistWatch

/-- What a call never changes in a row: its number and the text of its address. -/
def Row.key (r : Row) : UInt64 × String :=
  (r.id, r.ip)

theorem replaceRow_eq_set (new : Row) (rows : List Row) :
    replaceRow new rows = rows.set (rows.findIdx fun r => r.id == new.id) new := by
  induction rows with
  | nil => rfl
  | cons r rows ih =>
    rw [replaceRow, List.findIdx_cons]
    by_cases hid : r.id = new.id
    · simp [hid]
    · have hne : (r.id == new.id) = false := beq_eq_false_iff_ne.2 hid
      rw [if_neg hid, ih, hne, cond_false, List.set_cons_succ]

namespace FileStore

namespace Call

/-! ## One call -/

/-- The place of the row that a call is about: the first row of its number. -/
def target (c : Call) (rows : List Row) : Nat :=
  rows.findIdx fun r => r.id == c.state.id

theorem findRow?_eq_getElem? (c : Call) (rows : List Row) :
    findRow? rows c.state.id = rows[c.target rows]? :=
  List.find?_eq_getElem?_findIdx

theorem target_le {c : Call} {rows : List Row} {i : Nat} {row : Row} (h : rows[i]? = some row)
    (hid : row.id = c.state.id) : c.target rows ≤ i := by
  obtain ⟨hlt, hget⟩ := List.getElem?_eq_some_iff.1 h
  by_contra hlate
  have hnot := List.not_of_lt_findIdx (Nat.lt_of_not_le hlate)
  rw [hget, hid, beq_self_eq_true] at hnot
  exact Bool.noConfusion hnot

theorem id_of_target {c : Call} {rows : List Row} {row : Row}
    (h : rows[c.target rows]? = some row) : row.id = c.state.id := by
  have hfound := List.findIdx_of_getElem?_eq_some h
  exact beq_iff_eq.1 hfound

/-- What a call can do to the rows, whether their numbers are distinct or not. -/
theorem run_cases_row (c : Call) (w : FileStore × Disk) :
    ((c.run w).1 ≠ .ok true ∧ (c.run w).2.1 = w.1) ∨
      ∃ row changed, findRow? w.1.rows c.state.id = some row ∧
        row.update? c.transition c.policy = some changed ∧ (c.run w).1 = .ok true ∧
        (c.run w).2.1 = { w.1 with rows := w.1.rows.set (c.target w.1.rows) changed } := by
  obtain ⟨s, d⟩ := w
  cases hfind : findRow? s.rows c.state.id with
  | none =>
    have hrun : c.run (s, d) = (.error (.noRow c.state.id), s, d) := by
      unfold run apply
      simp only [hfind]
    rw [hrun]
    exact .inl ⟨by simp, rfl⟩
  | some row =>
    cases hupdate : row.update? c.transition c.policy with
    | none =>
      have hrun : c.run (s, d) = (.ok false, s, d) := by
        unfold run apply
        simp only [hfind, hupdate]
      rw [hrun]
      exact .inl ⟨by simp, rfl⟩
    | some changed =>
      have hid : changed.id = c.state.id := by
        rw [Row.of_update? hupdate, Row.id_change, (findRow?_eq_some hfind).1]
      have hset : replaceRow changed s.rows = s.rows.set (c.target s.rows) changed := by
        rw [replaceRow_eq_set, hid, target]
      have hrun := run_of_update (d := d) hfind hupdate
      rw [hset] at hrun
      rcases hsave : save s.path (s.rows.set (c.target s.rows) changed) d with ⟨e | _, d'⟩
      · rw [hsave] at hrun
        rw [hrun]
        exact .inl ⟨by simp, rfl⟩
      · rw [hsave] at hrun
        rw [hrun]
        exact .inr ⟨row, changed, rfl, hupdate, rfl, rfl⟩

theorem getElem?_run (c : Call) (w : FileStore × Disk) {j : Nat} (h : j ≠ c.target w.1.rows) :
    (c.run w).2.1.rows[j]? = w.1.rows[j]? := by
  rcases c.run_cases_row w with ⟨-, hkept⟩ | ⟨row, changed, -, -, -, hchanged⟩
  · rw [hkept]
  · rw [hchanged]
    exact List.getElem?_set_ne (Ne.symm h)

theorem key_update? {r changed : Row} {t : Transition} {policy : PriorityPolicy}
    (h : r.update? t policy = some changed) : changed.key = r.key := by
  rw [Row.of_update? h, Row.key, Row.id_change, Row.ip_change, Row.key]

theorem keys_run (c : Call) (w : FileStore × Disk) :
    (c.run w).2.1.rows.map Row.key = w.1.rows.map Row.key := by
  rcases c.run_cases_row w with ⟨-, hkept⟩ | ⟨row, changed, hfind, hupdate, -, hchanged⟩
  · rw [hkept]
  · have hplace : (w.1.rows.map Row.key)[c.target w.1.rows]? = some changed.key := by
      rw [List.getElem?_map, ← findRow?_eq_getElem?, hfind, Option.map_some, key_update? hupdate]
    obtain ⟨hlt, hkey⟩ := List.getElem?_eq_some_iff.1 hplace
    rw [hchanged, List.map_set, ← hkey, List.set_getElem_self]

/-! ## Calls after calls -/

theorem keys_runAll (calls : List Call) (w : FileStore × Disk) :
    (runAll calls w).1.rows.map Row.key = w.1.rows.map Row.key := by
  induction calls generalizing w with
  | nil => rfl
  | cons c calls ih => exact (ih (c.run w).2).trans (c.keys_run w)

/-- Where a call finds its row does not depend on what was changed before. -/
theorem target_runAll (c : Call) (calls : List Call) (w : FileStore × Disk) :
    c.target (runAll calls w).1.rows = c.target w.1.rows := by
  have hkey : ∀ rows : List Row,
      c.target rows = (rows.map Row.key).findIdx fun key => key.1 == c.state.id := by
    intro rows
    rw [List.findIdx_map]
    rfl
  rw [hkey, keys_runAll, ← hkey]

/-- The row that is found after a change was written is the changed one. -/
theorem findRow?_of_written {c : Call} {w : FileStore × Disk} (h : (c.run w).1 = .ok true) :
    ∃ row changed, findRow? w.1.rows c.state.id = some row ∧
      row.update? c.transition c.policy = some changed ∧
      findRow? (c.run w).2.1.rows c.state.id = some changed := by
  rcases c.run_cases_row w with ⟨hidle, -⟩ | ⟨row, changed, hfind, hupdate, -, hchanged⟩
  · exact absurd h hidle
  · refine ⟨row, changed, hfind, hupdate, ?_⟩
    have htarget : c.target (c.run w).2.1.rows = c.target w.1.rows := c.target_runAll [c] w
    rw [findRow?_eq_getElem?] at hfind
    have hlt : c.target w.1.rows < w.1.rows.length := (List.getElem?_eq_some_iff.1 hfind).1
    rw [findRow?_eq_getElem?, htarget, hchanged]
    exact List.getElem?_set_self hlt

theorem key_runAll (calls : List Call) {w : FileStore × Disk} {i : Nat} {row : Row}
    (h : w.1.rows[i]? = some row) :
    ∃ r, (runAll calls w).1.rows[i]? = some r ∧ r.key = row.key := by
  have hkeys := congrArg (fun keys : List (UInt64 × String) => keys[i]?) (keys_runAll calls w)
  simp only [List.getElem?_map, h, Option.map_some] at hkeys
  exact Option.map_eq_some_iff.1 hkeys

end Call

/-- A state was fetched from a row, with any calls before and any calls after that, and a transition
of it is applied. Only the first row that has the number of the state can change. If there is none
before the row that the state was fetched from, then no other row changes, none whose address is not
that of the state, and what is written is the update of this row. -/
theorem apply_changes_own_row (store : FileStore) (disk : Disk) (earlier later : List Call)
    (c : Call) {i : Nat} {row : Row}
    (hrow : (Call.runAll earlier (store, disk)).1.rows[i]? = some row)
    (hstate : row.state? = some c.state) :
    let before := Call.runAll later (Call.runAll earlier (store, disk))
    let after := (c.run before).2.1
    let first := store.rows.findIdx fun r => r.id == c.state.id
    first ≤ i ∧ (∀ j, j ≠ first → after.rows[j]? = before.1.rows[j]?) ∧
      ((∀ j < i, ∀ r, store.rows[j]? = some r → r.id ≠ c.state.id) →
        (∀ j, j ≠ i → after.rows[j]? = before.1.rows[j]?) ∧
        (∀ (j : Nat) (r : Row), before.1.rows[j]? = some r →
          Ipv4.parse? (Text.trim r.ip) ≠ some c.state.address → after.rows[j]? = some r) ∧
        ((c.run before).1 = .ok true → ∃ r changed, before.1.rows[i]? = some r ∧
          r.key = row.key ∧ r.update? c.transition c.policy = some changed ∧
          after.rows[i]? = some changed)) := by
  intro before after first
  obtain ⟨hid, -, haddress⟩ := Row.of_state? hstate
  obtain ⟨r, hr, hkey⟩ := Call.key_runAll later hrow
  have htarget : c.target before.1.rows = first := by
    rw [Call.target_runAll, Call.target_runAll]
    rfl
  have hfirst : first ≤ i := by
    rw [← htarget]
    exact Call.target_le hr ((congrArg Prod.fst hkey).trans hid.symm)
  have hframe : ∀ j, j ≠ first → after.rows[j]? = before.1.rows[j]? := fun j hj =>
    c.getElem?_run before (htarget.symm ▸ hj)
  refine ⟨hfirst, hframe, fun hnone => ?_⟩
  have hown : first = i := by
    by_contra hne
    have hlt : first < i := Nat.lt_of_le_of_ne hfirst hne
    have hrows : before.1.rows.length = store.rows.length := by
      have hkeys := (Call.keys_runAll later _).trans (Call.keys_runAll earlier (store, disk))
      simpa using congrArg List.length hkeys
    have hin : i < before.1.rows.length := (List.getElem?_eq_some_iff.1 hr).1
    have hthere : first < store.rows.length := by omega
    exact hnone first hlt _ (List.getElem?_eq_getElem hthere)
      (Call.id_of_target (List.getElem?_eq_getElem hthere))
  refine ⟨hown ▸ hframe, fun j other hother hforeign => ?_, fun hwritten => ?_⟩
  · refine (hframe j fun hj => hforeign ?_).trans hother
    rw [hj, hown, hr] at hother
    have hip : other.ip = row.ip := congrArg Prod.snd (Option.some.inj hother ▸ hkey)
    rw [hip, haddress]
  · obtain ⟨found, changed, hfind, hupdate, hfound⟩ := Call.findRow?_of_written hwritten
    have hstays : c.target after.rows = i := (c.target_runAll [c] before).trans (htarget.trans hown)
    rw [Call.findRow?_eq_getElem?, htarget, hown, hr] at hfind
    rw [Call.findRow?_eq_getElem?, hstays] at hfound
    obtain rfl := Option.some.inj hfind
    exact ⟨r, changed, hr, hkey, hupdate, hfound⟩

/-- A number twice, first for an address that can be read: its row is changed, and the other one, which
cannot be read, is not. -/
theorem apply_changes_own_row_before_its_double :
    let rows : List Row :=
      [⟨1, "192.0.2.1", some 70, none, none, none, []⟩, ⟨1, "mail", none, none, none, none, []⟩,
        ⟨2, "192.0.2.2", none, none, some "b.example", none, []⟩]
    let disk : Disk := .ofFile "ips.json" (some (rowsText rows))
    let call (state : IpState) (zones : List String) : Call :=
      ⟨state, state.transition (zones.map fun zone => ⟨zone, .listed⟩), ⟨0, 50⟩⟩
    let one : IpState := ⟨1, ⟨192, 0, 2, 1⟩, 70, none, .empty, none⟩
    let two : IpState := ⟨2, ⟨192, 0, 2, 2⟩, 100, none, .ofList ["b.example"], none⟩
    let before := Call.runAll [call two []] (⟨"ips.json", rows⟩, disk)
    let after := ((call one ["a.example"]).run before).2.1
    ((call one ["a.example"]).run before).1 = .ok true ∧ after.rows[1]? = before.1.rows[1]? ∧
      after.rows[2]? = before.1.rows[2]? ∧
      before.1.rows.map (·.zoneText) = [none, none, some ""] ∧
      after.rows.map (·.zoneText) = [some "a.example", none, some ""] := by
  intro rows disk call one two before after
  have hrow : (Call.runAll [] (⟨"ips.json", rows⟩, disk)).1.rows[0]? = some rows[0] := rfl
  have hstate : rows[0].state? = some (call one ["a.example"]).state := by decide +kernel
  obtain ⟨-, -, hown⟩ := apply_changes_own_row ⟨"ips.json", rows⟩ disk [] [call two []]
    (call one ["a.example"]) hrow hstate
  obtain ⟨hframe, -⟩ := hown fun j hj => absurd hj (Nat.not_lt_zero j)
  exact ⟨rfl, hframe 1 (by decide), hframe 2 (by decide), by decide +kernel, by decide +kernel⟩

/-- A number twice, first for an address that cannot be read: the state was fetched from the second
row, and its listing is written to the first. -/
theorem apply_changes_row_of_no_address :
    let first : Row := ⟨1, "mail", none, none, none, none, []⟩
    let second : Row := ⟨1, "192.0.2.1", none, none, none, none, []⟩
    let disk : Disk := .ofFile "ips.json" (some (rowsText [first, second]))
    let s : FileStore := ⟨"ips.json", [first, second]⟩
    let state : IpState := ⟨1, ⟨192, 0, 2, 1⟩, 100, none, .empty, none⟩
    let seen : List Observation := [⟨"a.example", .listed⟩]
    let t := state.transition seen
    let throttled : Row := { first with
      priority := some 0
      oldPriority := some 100
      zoneText := some "a.example"
      lastEvent := some "new block from list(s) a.example" }
    open? disk "ips.json" = .ok s ∧ s.states = [state] ∧ second.state? = some state ∧
      state.decide seen = some t ∧ first.state? = none ∧
      (s.apply disk state t .standard).1 = .ok true ∧
      (s.apply disk state t .standard).2.1.rows = [throttled, second] := by
  intro first second disk s state seen t throttled
  have hread : AsRead s.rows := by
    refine ⟨by decide, fun r hr => ?_⟩
    simp only [s, List.mem_cons, List.not_mem_nil, or_false] at hr
    rcases hr with rfl | rfl
    · exact .nil
    · exact .nil
  have hopen : open? disk "ips.json" = .ok s := open?_of_file rfl (readRows_rowsText hread)
  exact ⟨hopen, by decide +kernel, by decide +kernel, by decide +kernel, by decide +kernel, rfl, rfl⟩

end FileStore

end BlocklistWatch
