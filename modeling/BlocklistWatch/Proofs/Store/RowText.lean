import BlocklistWatch.Proofs.Coding.Basic
import BlocklistWatch.Store.FileStore

/-!
# Rows survive writing and reading

A row that was read from a text whose columns of others hold whole numbers only is read back from
its own written form with all its columns, and so is a list of such rows in the order of their
numbers.

* `Row.OthersFit` holds of columns of others that can be decoded at a depth; `Row.fit_of_decoder`
  says that decoding a row gives no others, and `Row.decoder_reading` that it undoes the encoding.
* `RowsWhole` says of a text what has to be known of its numbers; `readRows_rowsText` undoes the
  encoding of a whole list, and `asRead_of_readRows` says which lists are read.
-/

namespace BlocklistWatch

open Json (Value Decoder Reading StringText)
open Json.Decoder (bind_eq_ok map_eq_ok)

namespace Row

/-- The columns of a row itself. -/
def columns : List String :=
  ["id", "ip", "priority", "old_priority", "blocking_lists", "last_event"]

/-- The columns of others have names of their own, are in increasing order, and can be decoded at
the depth. -/
structure OthersFit (depth : Nat) (others : List (String × Value)) : Prop where
  foreign : ∀ m ∈ others, m.1 ∉ columns
  byName : Json.ByName others
  fits : ∀ m ∈ others, m.2.Fits depth

variable {depth : Nat} {r : Row}

theorem OthersFit.nil : OthersFit depth [] where
  foreign := fun _ hm => absurd hm List.not_mem_nil
  byName := List.Pairwise.nil
  fits := fun _ hm => absurd hm List.not_mem_nil

theorem OthersFit.insertMember {others : List (String × Value)} (h : OthersFit depth others)
    {name : String} (hname : name ∉ columns) {v : Value} (hv : v.Fits depth) :
    OthersFit depth (Json.insertMember name v others) where
  foreign := fun m hm => by
    rcases Json.eq_or_mem_of_mem_insertMember hm with rfl | hm
    · exact hname
    · exact h.foreign m hm
  byName := Json.byName_insertMember h.byName
  fits := fun m hm => by
    rcases Json.eq_or_mem_of_mem_insertMember hm with rfl | hm
    · exact hv
    · exact h.fits m hm

/-! ## Reading a written row -/

theorem readAll_cons (c : Columns) (stop : Option Json.Fault) (name : String) (v : Reading)
    (rest : List (StringText × Reading)) :
    c.readAll depth stop ((.ofString name, v) :: rest) =
      c.read depth name v >>= fun c => c.readAll depth stop rest := by
  rw [Columns.readAll, Decoder.orFault_value_ofString]
  rfl

theorem read_of_foreign {name : String} (h : name ∉ columns) (c : Columns) (v : Reading) :
    c.read depth name v = (Decoder.value depth v).map fun w =>
      { c with others := Json.insertMember name w c.others } := by
  unfold Columns.read
  split
  all_goals first
    | exact absurd (by decide) h
    | rfl

theorem readAll_others {others : List (String × Value)} (hforeign : ∀ m ∈ others, m.1 ∉ columns)
    (hfits : ∀ m ∈ others, m.2.Fits depth) (c : Columns) :
    c.readAll depth none (others.map fun m => (.ofString m.1, m.2.reading)) =
      .ok { c with
        others := others.foldl (fun sorted m => Json.insertMember m.1 m.2 sorted) c.others } := by
  induction others generalizing c with
  | nil => rfl
  | cons m ms ih =>
    rw [List.map_cons, readAll_cons, read_of_foreign (hforeign m List.mem_cons_self),
      Decoder.value_reading (hfits m List.mem_cons_self)]
    exact ih (fun n hn => hforeign n (List.mem_cons_of_mem m hn))
      (fun n hn => hfits n (List.mem_cons_of_mem m hn)) _

/-- A row is decoded from its own tree. -/
theorem decoder_reading (hdepth : 0 < depth) (h : OthersFit depth r.others) :
    decoder (depth + 1) r.json.reading = .ok r := by
  have hothers := readAll_others h.foreign h.fits
  rw [json, Value.reading, Value.memberReadings_eq_map, decoder, Decoder.enter_succ hdepth]
  simp only [bind, Except.bind, List.map_cons, List.cons_append, List.nil_append, readAll_cons,
    Columns.read, Columns.none, once, wordDecoder_reading, text_reading,
    nullable_reading byteDecoder_reading reading_byteJson_ne_null,
    nullable_reading text_reading reading_string_ne_null, hothers, Except.map, pure, Except.pure]
  have hsorted : r.others.foldl (fun sorted m => Json.insertMember m.1 m.2 sorted) [] = r.others :=
    Json.sortMembers_of_byName h.byName
  rw [Columns.row, hsorted]
  rfl

/-! ## Rows that were read -/

theorem others_of_read_own {name : String} (h : name ∈ columns) {c c' : Columns} {v : Reading}
    (hread : c.read depth name v = .ok c') : c'.others = c.others := by
  simp only [columns, List.mem_cons, List.not_mem_nil, or_false] at h
  rcases h with rfl | rfl | rfl | rfl | rfl | rfl
  all_goals
    obtain ⟨_, -, hread⟩ := bind_eq_ok.1 hread
    rw [← Except.ok.inj hread]

/-- In the tree of a row every number in a column of others is written as a whole number. -/
def OthersWhole : Reading → Prop
  | .object members _ =>
    ∀ m ∈ members, (∀ column ∈ columns, m.1.value ≠ .ok column) → m.2.Whole
  | _ => True

theorem OthersFit.read {c c' : Columns} (h : OthersFit depth c.others) {name : String} {v : Reading}
    (hv : name ∉ columns → v.Whole) (hread : c.read depth name v = .ok c') :
    OthersFit depth c'.others := by
  by_cases hname : name ∈ columns
  · rw [others_of_read_own hname hread]
    exact h
  · rw [read_of_foreign hname, map_eq_ok] at hread
    obtain ⟨w, hw, rfl⟩ := hread
    exact h.insertMember hname (Decoder.fits_of_value (hv hname) hw)

theorem OthersFit.readAll {stop : Option Json.Fault} {members : List (StringText × Reading)}
    (hwhole : OthersWhole (.object members stop)) {c c' : Columns} (h : OthersFit depth c.others)
    (hread : c.readAll depth stop members = .ok c') : OthersFit depth c'.others := by
  induction members generalizing c with
  | nil =>
    obtain ⟨-, -, rfl⟩ := map_eq_ok.1 hread
    exact h
  | cons m ms ih =>
    rw [Columns.readAll, bind_eq_ok] at hread
    obtain ⟨name, hname, hread⟩ := hread
    obtain ⟨c₁, hc₁, hread⟩ := bind_eq_ok.1 hread
    have hfirst : OthersFit depth c₁.others := by
      refine h.read (fun hforeign => ?_) hc₁
      refine hwhole m List.mem_cons_self fun column hcolumn hvalue => ?_
      rw [hvalue] at hname
      exact hforeign (Except.ok.inj hname ▸ hcolumn)
    exact ih (fun n hn => hwhole n (List.mem_cons_of_mem m hn)) hfirst hread

/-- A row that was decoded keeps columns of others that can be decoded again. -/
theorem fit_of_decoder {tree : Reading} (hwhole : OthersWhole tree)
    (h : decoder (depth + 1) tree = .ok r) : OthersFit depth r.others := by
  cases tree with
  | object members stop =>
    rw [decoder, bind_eq_ok] at h
    obtain ⟨inner, hinner, h⟩ := h
    obtain ⟨c, hc, hrow⟩ := bind_eq_ok.1 h
    obtain ⟨hdepth, -⟩ := Decoder.enter_eq_ok.1 hinner
    obtain rfl : inner = depth := by omega
    have hnone : OthersFit inner Columns.none.others := .nil
    have hothers : OthersFit inner c.others := hnone.readAll hwhole hc
    unfold Columns.row at hrow
    split at hrow
    · exact absurd hrow (by simp)
    · exact absurd hrow (by simp)
    · rw [← Except.ok.inj hrow]
      exact hothers
  | null | array | badNumber | badLiteral | missing | nameless => exact nomatch h
  | bool | number | string => exact absurd h (Decoder.mismatch_ne_ok "struct IpRow" _ r)

end Row

/-! ## Whole lists -/

/-- The levels that the columns of others may still enter, plus one: the list and the row have been
entered. -/
def othersDepth : Nat := Decoder.maxDepth - 2

/-- The rows are in the order of their numbers and can be read back. -/
structure AsRead (rows : List Row) : Prop where
  byId : (rows.map (·.id)).Pairwise (· ≤ ·)
  fits : ∀ r ∈ rows, Row.OthersFit othersDepth r.others

/-- In the tree of a list of rows every number in a column of others is written as a whole
number. -/
def RowsWhole : Reading → Prop
  | .array trees _ => ∀ tree ∈ trees, Row.OthersWhole tree
  | _ => True

theorem enter_maxDepth : Decoder.enter Decoder.maxDepth = .ok (othersDepth + 1) := rfl

theorem mergeSort_of_byId {rows : List Row} (h : (rows.map (·.id)).Pairwise (· ≤ ·)) :
    (rows.mergeSort fun a b => decide (a.id ≤ b.id)) = rows := by
  apply List.mergeSort_of_pairwise
  refine (List.pairwise_map.1 h).imp fun hle => ?_
  exact decide_eq_true hle

theorem byId_mergeSort (rows : List Row) :
    ((rows.mergeSort fun a b => decide (a.id ≤ b.id)).map (·.id)).Pairwise (· ≤ ·) := by
  rw [List.pairwise_map]
  have htrans : ∀ a b c : Row, decide (a.id ≤ b.id) = true → decide (b.id ≤ c.id) = true →
      decide (a.id ≤ c.id) = true := by
    intro a b c hab hbc
    rw [decide_eq_true_eq] at hab hbc ⊢
    exact UInt64.le_trans hab hbc
  have htotal : ∀ a b : Row, (decide (a.id ≤ b.id) || decide (b.id ≤ a.id)) = true := by
    intro a b
    rw [Bool.or_eq_true, decide_eq_true_eq, decide_eq_true_eq]
    exact UInt64.le_total a.id b.id
  exact (List.pairwise_mergeSort htrans htotal rows).imp fun hle => of_decide_eq_true hle

/-- The text of some rows, in whatever order, is decoded to them. -/
theorem run_rowsText {rows : List Row} (h : ∀ r ∈ rows, Row.OthersFit othersDepth r.others) :
    (Decoder.list Row.decoder).run (rowsText rows) = .ok rows := by
  have htrees : (rows.map (·.json)).map Value.reading = rows.map fun r => r.json.reading :=
    List.map_map
  have hitems : Decoder.items Row.decoder (othersDepth + 1) none
      (rows.map fun r => r.json.reading) = .ok rows :=
    Decoder.items_map fun r hr => Row.decoder_reading (by decide) (h r hr)
  rw [Decoder.run_eq_ok, rowsText, Reading.ofString_pretty, Value.reading,
    Value.itemReadings_eq_map, htrees, Decoder.list, enter_maxDepth]
  exact ⟨hitems, rfl⟩

/-- Rows as they are read are read again from their own text. -/
theorem readRows_rowsText {rows : List Row} (h : AsRead rows) :
    readRows (rowsText rows) = .ok rows := by
  rw [readRows, run_rowsText h.fits]
  exact congrArg Except.ok (mergeSort_of_byId h.byId)

theorem asRead_of_readRows {content : String} (hwhole : RowsWhole (Reading.ofString content).1)
    {rows : List Row} (h : readRows content = .ok rows) : AsRead rows := by
  obtain ⟨found, hrun, rfl⟩ := map_eq_ok.1 h
  refine ⟨byId_mergeSort found, fun r hr => ?_⟩
  rw [List.mem_mergeSort] at hr
  obtain ⟨trees, stop, inner, htree, hinner, hitems⟩ :=
    Decoder.of_list (Decoder.run_eq_ok.1 hrun).1
  rw [enter_maxDepth] at hinner
  rw [htree] at hwhole
  rw [← Except.ok.inj hinner] at hitems
  have hfits : ∀ tree ∈ trees, ∀ row, Row.decoder (othersDepth + 1) tree = .ok row →
      Row.OthersFit othersDepth row.others := fun tree htree _ =>
    Row.fit_of_decoder (hwhole tree htree)
  exact Decoder.forall_of_items hfits hitems r hr

end BlocklistWatch
