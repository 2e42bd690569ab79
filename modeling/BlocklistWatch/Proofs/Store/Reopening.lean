import BlocklistWatch.Proofs.Store.Atomicity
import BlocklistWatch.Proofs.Store.RowText

/-!
# Opening a store again gives the rows in memory

A store that was opened from a text whose columns of others hold whole numbers only keeps rows that
can be read back, whatever is changed in them. After a call that changed something the file holds
the text of these rows, so that a store opened from it is the one in memory.

* `asRead_replaceRow` says that replacing a row keeps a list readable, and
  `FileStore.Call.asRead_runAll` that any calls do.
* `FileStore.Call.file_of_written` is the file after a call that changed something.
* `FileStore.reopens` puts both together.
-/

namespace BlocklistWatch

/-! ## Replacing a row -/

theorem mem_replaceRow {new r : Row} {rows : List Row} (h : r ∈ replaceRow new rows) :
    r = new ∨ r ∈ rows := by
  induction rows with
  | nil => exact absurd h List.not_mem_nil
  | cons first rows ih =>
    rw [replaceRow] at h
    split at h
    · exact (List.mem_cons.1 h).imp_right (List.mem_cons_of_mem first)
    · rcases List.mem_cons.1 h with rfl | h
      · exact .inr List.mem_cons_self
      · exact (ih h).imp_right (List.mem_cons_of_mem first)

theorem ids_replaceRow (new : Row) (rows : List Row) :
    (replaceRow new rows).map (·.id) = rows.map (·.id) := by
  induction rows with
  | nil => rfl
  | cons first rows ih =>
    rw [replaceRow]
    split
    · next hid => rw [List.map_cons, List.map_cons, hid]
    · rw [List.map_cons, List.map_cons, ih]

theorem asRead_replaceRow {new : Row} {rows : List Row} (h : AsRead rows)
    (hnew : Row.OthersFit othersDepth new.others) : AsRead (replaceRow new rows) where
  byId := (ids_replaceRow new rows).symm ▸ h.byId
  fits := fun r hr => (mem_replaceRow hr).elim (fun heq => heq ▸ hnew) (h.fits r)

namespace FileStore

namespace Call

/-! ## One call -/

/-- What a call can come to: nothing is changed; or a row is replaced by one with the same columns
of others, and the rows are written or put back. -/
theorem run_cases (c : Call) (w : FileStore × Disk) :
    (∃ answer, c.run w = (answer, w) ∧ answer ≠ .ok true) ∨
      ∃ row changed, row ∈ w.1.rows ∧ changed.others = row.others ∧
        ((∃ e disk, c.run w = (.error e, w.1, disk)) ∨
          ∃ disk, c.run w =
              (.ok true, { w.1 with rows := replaceRow changed w.1.rows }, disk) ∧
            disk.files w.1.path = some (.file (rowsText (replaceRow changed w.1.rows)))) := by
  obtain ⟨s, d⟩ := w
  cases hfind : findRow? s.rows c.state.id with
  | none =>
    refine .inl ⟨.error (.noRow c.state.id), ?_, by simp⟩
    unfold run apply
    simp only [hfind]
  | some row =>
    cases hupdate : row.update? c.transition c.policy with
    | none =>
      refine .inl ⟨.ok false, ?_, by simp⟩
      unfold run apply
      simp only [hfind, hupdate]
    | some changed =>
      have hmem : row ∈ s.rows := by
        obtain ⟨-, front, back, hrows, -⟩ := findRow?_eq_some hfind
        rw [hrows]
        simp
      have hothers : changed.others = row.others := by
        rw [Row.of_update? hupdate]
        exact (Row.change_keeps ..).2.2
      refine .inr ⟨row, changed, hmem, hothers, ?_⟩
      have hrun := run_of_update (d := d) hfind hupdate
      obtain ⟨answer, disk, hsaving, hsave⟩ := saving_save s.path (replaceRow changed s.rows) d
      rw [hsave] at hrun
      cases answer with
      | error e => exact .inl ⟨_, disk, hrun⟩
      | ok _ => exact .inr ⟨disk, hrun, hsaving.file_of_ok⟩

theorem asRead_run (c : Call) {w : FileStore × Disk} (h : AsRead w.1.rows) :
    AsRead (c.run w).2.1.rows := by
  rcases c.run_cases w with ⟨answer, hrun, -⟩ | ⟨row, changed, hrow, hothers, hcases⟩
  · rw [hrun]
    exact h
  · rcases hcases with ⟨e, disk, hrun⟩ | ⟨disk, hrun, -⟩
    · rw [hrun]
      exact h
    · rw [hrun]
      exact asRead_replaceRow h (hothers ▸ h.fits row hrow)

theorem path_run (c : Call) (w : FileStore × Disk) : (c.run w).2.1.path = w.1.path := by
  rcases c.run_cases w with ⟨answer, hrun, -⟩ | ⟨row, changed, -, -, hcases⟩
  · rw [hrun]
  · rcases hcases with ⟨e, disk, hrun⟩ | ⟨disk, hrun, -⟩
    · rw [hrun]
    · rw [hrun]

/-- After a call that changed something the file holds the rows. -/
theorem file_of_written {c : Call} {w : FileStore × Disk} (h : (c.run w).1 = .ok true) :
    (c.run w).2.2.files w.1.path = some (.file (rowsText (c.run w).2.1.rows)) := by
  rcases c.run_cases w with ⟨answer, hrun, hidle⟩ | ⟨row, changed, -, -, hcases⟩
  · rw [hrun] at h
    exact absurd h hidle
  · rcases hcases with ⟨e, disk, hrun⟩ | ⟨disk, hrun, hfile⟩
    · rw [hrun] at h
      exact absurd h (by simp)
    · rw [hrun]
      exact hfile

/-! ## Calls after calls -/

theorem asRead_runAll (calls : List Call) {w : FileStore × Disk} (h : AsRead w.1.rows) :
    AsRead (runAll calls w).1.rows := by
  induction calls generalizing w with
  | nil => exact h
  | cons c calls ih => exact ih (c.asRead_run h)

theorem path_runAll (calls : List Call) (w : FileStore × Disk) :
    (runAll calls w).1.path = w.1.path := by
  induction calls generalizing w with
  | nil => rfl
  | cons c calls ih => exact (ih (c.run w).2).trans (c.path_run w)

end Call

/-! ## Opening -/

theorem open?_of_file {disk : Disk} {path content : String} {rows : List Row}
    (hfile : disk.files path = some (.file content)) (hread : readRows content = .ok rows) :
    open? disk path = .ok ⟨path, rows⟩ := by
  unfold open? Disk.read
  simp only [hfile, hread]

theorem of_open? {disk : Disk} {path : String} {s : FileStore} (h : open? disk path = .ok s) :
    s.path = path ∧
      ∃ content, disk.read path = .ok content ∧ readRows content = .ok s.rows := by
  unfold open? at h
  split at h
  · exact absurd h (by simp)
  · next content hcontent =>
    split at h
    · exact absurd h (by simp)
    · next rows hrows =>
      rw [← Except.ok.inj h]
      exact ⟨rfl, content, hcontent, hrows⟩

/-- A store was opened from a file in whose columns of others every number is written as a whole
number. After any calls its rows are read back from their own text; and a call that changed
something leaves a file from which the very store is opened that is in memory. -/
theorem reopens {path : String} {origin : Disk} {s : FileStore}
    (hopen : open? origin path = .ok s)
    (hwhole : ∀ content, origin.read path = .ok content →
      RowsWhole (Json.Reading.ofString content).1) (disk : Disk) (earlier : List Call) (c : Call) :
    let before := Call.runAll earlier (s, disk)
    readRows (rowsText before.1.rows) = .ok before.1.rows ∧
      ((c.run before).1 = .ok true → open? (c.run before).2.2 path = .ok (c.run before).2.1) := by
  intro before
  obtain ⟨hpath, content, hcontent, hrows⟩ := of_open? hopen
  have hread : AsRead s.rows := asRead_of_readRows (hwhole content hcontent) hrows
  have hbefore : AsRead before.1.rows := Call.asRead_runAll earlier hread
  refine ⟨readRows_rowsText hbefore, fun hwritten => ?_⟩
  have hkept : before.1.path = path := (Call.path_runAll earlier (s, disk)).trans hpath
  have hfile := Call.file_of_written hwritten
  rw [hkept] at hfile
  rw [open?_of_file hfile (readRows_rowsText (c.asRead_run hbefore))]
  rw [← hkept, ← c.path_run before]

set_option maxRecDepth 20000 in
/-- A file whose rows are not in the order of their numbers, and where a column of others holds
nested values, a control character as a name, a null and the least number; one of its rows is
changed after a call about a number without a row. -/
theorem reopens_nested :
    let text : String :=
      "[\x7b\"id\":7,\"ip\":\"192.0.2.2\",\"tag\":\x7b\"b\":[-9223372036854775808," ++
        "\x7b\"\\u0001\":null\x7d],\"a\":\"\\ud83d\\ude00\"\x7d\x7d," ++
        "\x7b\"ip\":\"\",\"id\":3,\"priority\":null\x7d]"
    let tag : Json.Value := .object [("a", .string "😀"),
      ("b", .array [.number (.minus 9223372036854775808), .object [("\x01", .null)]])]
    let s : FileStore := ⟨"ips.json", [⟨3, "", none, none, none, none, []⟩,
      ⟨7, "192.0.2.2", none, none, none, none, [("tag", tag)]⟩]⟩
    let disk : Disk := .ofFile "ips.json" (some text)
    let call (id : UInt64) : Call :=
      ⟨⟨id, ⟨192, 0, 2, 2⟩, 100, none, .empty, none⟩,
        ⟨⟨192, 0, 2, 2⟩, .clean, .listed, ["a.example"], [], ⟨["a.example"], []⟩, true⟩, ⟨0, 50⟩⟩
    open? disk "ips.json" = .ok s ∧ RowsWhole (Json.Reading.ofString text).1 ∧
      ((call 7).run (Call.runAll [call 9] (s, disk))).1 = .ok true ∧
      open? ((call 7).run (Call.runAll [call 9] (s, disk))).2.2 "ips.json" =
        .ok ((call 7).run (Call.runAll [call 9] (s, disk))).2.1 := by
  intro text tag s disk call
  have htree : Json.Reading.ofString text =
      (.array [
        .object [
          (⟨[.char 'i', .char 'd'], none⟩, .number ⟨false, ['7'], [], none⟩),
          (⟨[.char 'i', .char 'p'], none⟩, .string (.ofString "192.0.2.2")),
          (⟨[.char 't', .char 'a', .char 'g'], none⟩, .object [
            (⟨[.char 'b'], none⟩, .array [
              .number ⟨true, "9223372036854775808".toList, [], none⟩,
              .object [(⟨[.code 1], none⟩, .null)] none] none),
            (⟨[.char 'a'], none⟩, .string ⟨[.code 0xd83d, .code 0xde00], none⟩)] none)] none,
        .object [
          (⟨[.char 'i', .char 'p'], none⟩, .string ⟨[], none⟩),
          (⟨[.char 'i', .char 'd'], none⟩, .number ⟨false, ['3'], [], none⟩),
          (.ofString "priority", .null)] none] none, false) := by
    have htokens : Json.Token.scan text.toList = [
        .openBracket,
        .openBrace, .string (.ofString "id"), .colon, .number ⟨false, ['7'], [], none⟩,
        .comma, .string (.ofString "ip"), .colon, .string (.ofString "192.0.2.2"),
        .comma, .string (.ofString "tag"), .colon,
        .openBrace, .string (.ofString "b"), .colon,
        .openBracket, .number ⟨true, "9223372036854775808".toList, [], none⟩,
        .comma, .openBrace, .string ⟨[.code 1], none⟩, .colon, .null, .closeBrace, .closeBracket,
        .comma, .string (.ofString "a"), .colon, .string ⟨[.code 0xd83d, .code 0xde00], none⟩,
        .closeBrace, .closeBrace, .comma,
        .openBrace, .string (.ofString "ip"), .colon, .string (.ofString ""),
        .comma, .string (.ofString "id"), .colon, .number ⟨false, ['3'], [], none⟩,
        .comma, .string (.ofString "priority"), .colon, .null,
        .closeBrace, .closeBracket] := by
      decide +kernel
    rw [Json.Reading.ofString, htokens]
    rfl
  have hrows : readRows text = .ok s.rows := by
    have hrun : (Json.Decoder.list Row.decoder).run text =
        .ok [⟨7, "192.0.2.2", none, none, none, none, [("tag", tag)]⟩,
          ⟨3, "", none, none, none, none, []⟩] := by
      rw [Json.Decoder.run_eq_ok, htree]
      exact ⟨rfl, rfl⟩
    rw [readRows, hrun]
    simp [Except.map, List.mergeSort, s]
  have hopen : open? disk "ips.json" = .ok s := open?_of_file rfl hrows
  have hleast : Json.NumberText.IsWhole ⟨true, "9223372036854775808".toList, [], none⟩ :=
    ⟨rfl, rfl, by decide⟩
  have hwhole : RowsWhole (Json.Reading.ofString text).1 := by
    rw [htree]
    refine List.forall_mem_cons.2 ⟨?_, List.forall_mem_singleton.2 ?_⟩
    · intro m hm _
      simp only [List.mem_cons, List.not_mem_nil, or_false] at hm
      rcases hm with rfl | rfl | rfl
      · exact .number ⟨rfl, rfl, by decide⟩
      · exact .string _
      · refine .object (List.forall_mem_cons.2 ⟨.array ?_, List.forall_mem_singleton.2 (.string _)⟩)
        exact List.forall_mem_cons.2 ⟨.number hleast,
          List.forall_mem_singleton.2 (.object (List.forall_mem_singleton.2 .null))⟩
    · intro m hm _
      simp only [List.mem_cons, List.not_mem_nil, or_false] at hm
      rcases hm with rfl | rfl | rfl
      · exact .string _
      · exact .number ⟨rfl, rfl, by decide⟩
      · exact .null
  have hwritten : ((call 7).run (Call.runAll [call 9] (s, disk))).1 = .ok true := rfl
  have hcontent : ∀ content, disk.read "ips.json" = .ok content →
      RowsWhole (Json.Reading.ofString content).1 := by
    intro content hread
    have heq : text = content := Except.ok.inj hread
    rw [← heq]
    exact hwhole
  obtain ⟨-, hreopened⟩ := reopens hopen hcontent disk [call 9] (call 7)
  exact ⟨hopen, hwhole, hwritten, hreopened hwritten⟩

end FileStore

end BlocklistWatch
