import BlocklistWatch.Json.Reading
import BlocklistWatch.Proofs.Json.Scanning

/-!
# The tree of a written value

Reading the tokens of a value builds the tree of the value, with no fault in it and with no token
left over.

* `Reading.Reads` is reading on from one place to another; `Reading.build_of_reads` and
  `Reading.overrun_of_reads` say what that comes to.
* `Value.reading` is the tree of a value, and `Reading.reads_tokens` says that the tokens of the
  value lead to it.
* `Reading.ofString_compact` and `Reading.ofString_pretty` read the two written forms, and
  `Reading.fault?_reading` says that nothing is wrong in them.
-/

namespace BlocklistWatch.Json

namespace Value

mutual

/-- The tree that is read of a written value. -/
def reading : Value → Reading
  | .null => .null
  | .bool b => .bool b
  | .number n => .number n.text
  | .string s => .string (.ofString s)
  | .array items => .array (itemReadings items) none
  | .object members => .object (memberReadings members) none

def itemReadings : List Value → List Reading
  | [] => []
  | v :: vs => reading v :: itemReadings vs

def memberReadings : List (String × Value) → List (StringText × Reading)
  | [] => []
  | (name, v) :: ms => (.ofString name, reading v) :: memberReadings ms

end

theorem itemReadings_eq_map (items : List Value) : itemReadings items = items.map reading := by
  induction items with
  | nil => rfl
  | cons v vs ih => rw [itemReadings, ih, List.map_cons]

theorem memberReadings_eq_map (members : List (String × Value)) :
    memberReadings members = members.map fun m => (.ofString m.1, m.2.reading) := by
  induction members with
  | nil => rfl
  | cons m ms ih => rw [memberReadings, ih, List.map_cons]

end Value

namespace Reading

/-! ## From one place to another -/

/-- Tokens that lead from one place of a text to another. -/
inductive Reads : List Frame × Phase → List Token → List Frame × Phase → Prop
  | done {w : List Frame × Phase} : Reads w [] w
  | next {w w₁ w₂ : List Frame × Phase} {t : Token} {ts : List Token} :
      step w.1 w.2 t = .inl w₁ → Reads w₁ ts w₂ → Reads w (t :: ts) w₂

variable {w w₁ w₂ : List Frame × Phase} {ts us : List Token}

theorem Reads.one {t : Token} (h : step w.1 w.2 t = .inl w₁) : Reads w [t] w₁ :=
  .next h .done

theorem Reads.trans (h₁ : Reads w ts w₁) (h₂ : Reads w₁ us w₂) : Reads w (ts ++ us) w₂ := by
  induction h₁ with
  | done => exact h₂
  | next hstep _ ih => exact .next hstep (ih h₂)

theorem build_of_reads (h : Reads w ts w₁) (more : List Token) :
    build w.1 w.2 (ts ++ more) = build w₁.1 w₁.2 more := by
  induction h with
  | done => rfl
  | next hstep _ ih =>
    rw [List.cons_append, build, hstep]
    exact ih

theorem overrun_of_reads (h : Reads w ts w₁) (more : List Token) :
    overrun w.1 w.2 (ts ++ more) = overrun w₁.1 w₁.2 more := by
  induction h with
  | done => rfl
  | @next w w₁ w₂ t ts hstep _ ih =>
    obtain ⟨frames, phase⟩ := w
    rw [List.cons_append, overrun]
    · simp only [hstep]
      exact ih
    · -- After a complete value no token leads on.
      rintro r rfl rfl
      exact absurd hstep (by simp [step])

/-! ## Values -/

/-- The tokens of the value lead to its tree, inside any arrays and objects. -/
def Builds (v : Value) : Prop :=
  ∀ frames, Reads (frames, .value) v.tokens (frames, .after v.reading)

/-- The first element of an array is read as a value. -/
theorem Reads.firstItem {frames outer : List Frame} {r : Reading}
    (h : Reads (.array [] :: frames, .value) ts (outer, .after r)) :
    Reads (frames, .firstItem) ts (outer, .after r) := by
  cases h with
  | @next _ w₁ _ t ts hstep hrest =>
    refine .next ?_ hrest
    cases t with
    | closeBracket => exact absurd hstep (by simp [step, startValue])
    | _ => exact hstep

theorem reads_moreItems {items : List Value} (h : ∀ v ∈ items, Builds v) (frames : List Frame)
    (before : List Reading) (r : Reading) :
    Reads (.array before :: frames, .after r) (Value.moreItemTokens items)
      (frames, .after (.array (before.reverse ++ r :: items.map Value.reading) none)) := by
  induction items generalizing before r with
  | nil =>
    refine .one ?_
    simp [step]
  | cons v vs ih =>
    have hrest := ih (fun u hu => h u (List.mem_cons_of_mem v hu)) (r :: before) v.reading
    rw [List.reverse_cons, List.append_assoc, List.singleton_append] at hrest
    exact .next rfl ((h v List.mem_cons_self _).trans hrest)

theorem reads_items {items : List Value} (h : ∀ v ∈ items, Builds v) (frames : List Frame) :
    Reads (frames, .firstItem) (Value.itemTokens items)
      (frames, .after (.array (items.map Value.reading) none)) := by
  cases items with
  | nil => exact .one rfl
  | cons v vs =>
    have hrest := reads_moreItems (fun u hu => h u (List.mem_cons_of_mem v hu)) frames [] v.reading
    exact ((h v List.mem_cons_self _).trans hrest).firstItem

theorem reads_moreMembers {members : List (String × Value)} (h : ∀ m ∈ members, Builds m.2)
    (frames : List Frame) (before : List (StringText × Reading)) (name : StringText)
    (r : Reading) :
    Reads (.object before name :: frames, .after r) (Value.moreMemberTokens members)
      (frames, .after (.object (before.reverse ++ (name, r) ::
        members.map fun m => (.ofString m.1, m.2.reading)) none)) := by
  induction members generalizing before name r with
  | nil =>
    refine .one ?_
    simp [step]
  | cons m ms ih =>
    have hrest := ih (fun n hn => h n (List.mem_cons_of_mem m hn)) ((name, r) :: before)
      (.ofString m.1) m.2.reading
    rw [List.reverse_cons, List.append_assoc, List.singleton_append] at hrest
    have hmember := h m List.mem_cons_self (.object ((name, r) :: before) (.ofString m.1) :: frames)
    exact .next rfl (.next rfl (.next rfl (hmember.trans hrest)))

theorem reads_members {members : List (String × Value)} (h : ∀ m ∈ members, Builds m.2)
    (frames : List Frame) :
    Reads (frames, .firstName) (Value.memberTokens members)
      (frames, .after (.object (members.map fun m => (.ofString m.1, m.2.reading)) none)) := by
  cases members with
  | nil => exact .one rfl
  | cons m ms =>
    have hrest := reads_moreMembers (fun n hn => h n (List.mem_cons_of_mem m hn)) frames []
      (.ofString m.1) m.2.reading
    have hmember := h m List.mem_cons_self (.object [] (.ofString m.1) :: frames)
    exact .next rfl (.next rfl (hmember.trans hrest))

mutual

theorem reads_tokens : ∀ v : Value, Builds v
  | .null | .bool _ | .number _ | .string _ => fun _ => .one rfl
  | .array items => by
    intro frames
    rw [Value.reading, Value.itemReadings_eq_map]
    exact .next rfl (reads_items (builds_items items) frames)
  | .object members => by
    intro frames
    rw [Value.reading, Value.memberReadings_eq_map]
    exact .next rfl (reads_members (builds_members members) frames)

theorem builds_items : ∀ items : List Value, ∀ v ∈ items, Builds v
  | [], _, hv => absurd hv List.not_mem_nil
  | w :: ws, v, hv => (List.mem_cons.1 hv).elim (fun h => h ▸ reads_tokens w) (builds_items ws v)

theorem builds_members : ∀ members : List (String × Value), ∀ m ∈ members, Builds m.2
  | [], _, hm => absurd hm List.not_mem_nil
  | (_, w) :: ms, m, hm =>
    (List.mem_cons.1 hm).elim (fun h => h ▸ reads_tokens w) (builds_members ms m)

end

/-- A written value is read as its tree, and nothing is left over. -/
theorem ofTokens_tokens (v : Value) : ofTokens v.tokens = (v.reading, false) := by
  have hreads := reads_tokens v []
  have hbuild := build_of_reads hreads []
  have hoverrun := overrun_of_reads hreads []
  rw [List.append_nil] at hbuild hoverrun
  rw [ofTokens, hbuild, hoverrun]
  rfl

mutual

/-- In the tree of a value nothing is wrong. -/
theorem fault?_reading : ∀ v : Value, v.reading.fault? = none
  | .null | .bool _ | .number _ | .string _ => rfl
  | .array items => by
    rw [Value.reading, fault?]
    exact itemsFault?_readings items
  | .object members => by
    rw [Value.reading, fault?]
    exact membersFault?_readings members

theorem itemsFault?_readings : ∀ items, itemsFault? none (Value.itemReadings items) = none
  | [] => rfl
  | v :: vs => by
    rw [Value.itemReadings, itemsFault?, fault?_reading v]
    exact itemsFault?_readings vs

theorem membersFault?_readings : ∀ members, membersFault? none (Value.memberReadings members) = none
  | [] => rfl
  | (name, v) :: ms => by
    rw [Value.memberReadings, membersFault?, fault?_reading v]
    exact membersFault?_readings ms

end

theorem ofString_compact (v : Value) : ofString v.compact = (v.reading, false) := by
  rw [ofString, Token.scan_compact, ofTokens_tokens]

theorem ofString_pretty (v : Value) : ofString v.pretty = (v.reading, false) := by
  rw [ofString, Token.scan_pretty, ofTokens_tokens]

end Reading

end BlocklistWatch.Json
