import Mathlib.Data.List.Forall2
import Mathlib.Data.List.Nodup
import BlocklistWatch.Proofs.Json.Decoding

/-!
# Records are decoded by the names of their fields, or by their places

From an object a record is decoded by what stands under the names of its fields. The order of the
members has no part in it, and neither have members with other names, as long as these can be read.
From an array a record is decoded by the places of the elements.

* `Shape.Reads` says what record comes of what stands under the names; `Shape.Reads.seq`,
  `Shape.Reads.field` and `Shape.Reads.orDefault` build such a statement field by field, in the way
  the shape is built.
* `Shape.Opens` says what is asked of the members; `Shape.readMembers_eq` says which are kept.
* `Shape.decoder_object` decodes any such object; `Shape.opens_written` says that a written object
  is one.
* `Shape.Takes` says what record comes of some elements; `Shape.decoder_array` decodes an array of
  them.
-/

namespace BlocklistWatch.Json

variable {α β : Type} {depth : Nat}

/-! ## Members by name -/

namespace Members

variable {name : String} {r : Reading} {ms : Members}

theorem get?_eq_none_iff : ms.get? name = none ↔ name ∉ ms.map (·.1) := by
  rw [get?, Option.map_eq_none_iff, List.find?_eq_none, List.mem_map, not_exists]
  refine forall_congr' fun m => ?_
  rw [beq_iff_eq, not_and]

theorem mem_of_get? (h : ms.get? name = some r) : (name, r) ∈ ms := by
  obtain ⟨m, hm, rfl⟩ := Option.map_eq_some_iff.1 h
  have hname : (m.1 == name) = true := by
    have hsome := List.find?_some hm
    exact hsome
  rw [← beq_iff_eq.1 hname]
  exact List.mem_of_find?_eq_some hm

theorem get?_of_mem (hnodup : (ms.map (·.1)).Nodup) (h : (name, r) ∈ ms) :
    ms.get? name = some r := by
  cases hget : ms.get? name with
  | none => exact absurd (List.mem_map_of_mem h) (get?_eq_none_iff.1 hget)
  | some r' =>
    have hsame := List.inj_on_of_nodup_map hnodup (mem_of_get? hget) h rfl
    rw [(Prod.mk.inj hsame).2]

end Members

namespace Shape

/-! ## From what stands under the names -/

/-- What stands under the names of the fields passes the checks and makes the record. -/
structure Reads (x : Shape α) (depth : Nat) (found : String → Option Reading) (a : α) : Prop where
  checked : ∀ field ∈ x.fields, ∀ r, found field.1 = some r → field.2 depth r = .ok ()
  made : ∀ ms : Members, (∀ field ∈ x.fields, ms.get? field.1 = found field.1) →
    x.ofMembers depth ms = .ok a

section

variable {found : String → Option Reading}

theorem Reads.pure (a : α) : (Shape.pure a).Reads depth found a where
  checked _ hfield := absurd hfield List.not_mem_nil
  made _ _ := rfl

theorem Reads.seq {x : Shape (α → β)} {y : Shape α} {f : α → β} {a : α}
    (hx : x.Reads depth found f) (hy : y.Reads depth found a) :
    (x.seq y).Reads depth found (f a) where
  checked field hfield :=
    (List.mem_append.1 hfield).elim (hx.checked field) (hy.checked field)
  made ms hms := by
    have hf := hx.made ms fun field h => hms field (List.mem_append_left _ h)
    have ha := hy.made ms fun field h => hms field (List.mem_append_right _ h)
    dsimp only [Shape.seq, bind, Except.bind]
    rw [hf, ha]
    rfl

variable {name : String} {d : Decoder α} {absent : Except DecodeError α} {short : Option α}
  {a fallback : α}

theorem Reads.field {r : Reading} (hfound : found name = some r) (hr : d depth r = .ok a) :
    (fieldWith name d absent short).Reads depth found a where
  checked field hfield r' hr' := by
    rw [List.mem_singleton.1 hfield] at hr' ⊢
    rw [hfound] at hr'
    dsimp only
    rw [← Option.some.inj hr', hr]
    rfl
  made ms hms := by
    have hget : ms.get? name = found name := hms _ List.mem_cons_self
    dsimp only [fieldWith]
    rw [hget, hfound]
    exact hr

theorem Reads.missing (hfound : found name = none) (ha : absent = .ok a) :
    (fieldWith name d absent short).Reads depth found a where
  checked field hfield r hr := by
    rw [List.mem_singleton.1 hfield, hfound] at hr
    cases hr
  made ms hms := by
    have hget : ms.get? name = found name := hms _ List.mem_cons_self
    dsimp only [fieldWith]
    rw [hget, hfound]
    exact ha

/-- A field with a default may be there or not. -/
theorem Reads.orDefault {r : Reading} (hr : d depth r = .ok a)
    (h : found name = some r ∨ found name = none ∧ a = fallback) :
    (withDefault name d fallback).Reads depth found a := by
  rcases h with hfound | ⟨hfound, rfl⟩
  · exact .field hfound hr
  · exact .missing hfound rfl

end

/-! ## Members of an object -/

/-- The names of the fields. -/
def names (x : Shape α) : List String :=
  x.fields.map (·.1)

/-- The members whose names are fields of the record. -/
def own (x : Shape α) (ms : Members) : Members :=
  ms.filter (·.1 ∈ x.names)

/-- The members of an object are these, whatever way their names are written. -/
abbrev Spells (members : List (StringText × Reading)) (ms : Members) : Prop :=
  List.Forall₂ (fun m n => m.1.value = .ok n.1 ∧ m.2 = n.2) members ms

theorem spells_ofString (ms : Members) : Spells (ms.map fun m => (.ofString m.1, m.2)) ms :=
  List.forall₂_map_left_iff.2 <|
    List.forall₂_same.2 fun m _ => ⟨StringText.value_ofString m.1, rfl⟩

variable {x : Shape α} {members : List (StringText × Reading)} {before ms : Members}

theorem get?_own {field : String} (h : field ∈ x.names) :
    (x.own ms).get? field = ms.get? field := by
  rw [Members.get?, Members.get?, own, List.find?_filter]
  congr 2
  funext m
  by_cases hm : m.1 = field
  · simp [hm, h]
  · simp [hm]

section

variable {text : StringText} {name : String} {r : Reading}

theorem own_cons_of_mem (h : name ∈ x.names) : x.own ((name, r) :: ms) = (name, r) :: x.own ms :=
  List.filter_cons_of_pos (decide_eq_true h)

theorem own_cons_of_not_mem (h : name ∉ x.names) : x.own ((name, r) :: ms) = x.own ms :=
  List.filter_cons_of_neg fun hown => h (of_decide_eq_true hown)

theorem find?_of_mem_names (h : name ∈ x.names) :
    ∃ field, x.fields.find? (·.1 == name) = some field ∧ field ∈ x.fields ∧ field.1 = name := by
  cases hfind : x.fields.find? (·.1 == name) with
  | none =>
    obtain ⟨field, hfield, rfl⟩ := List.mem_map.1 h
    exact absurd (List.find?_eq_none.1 hfind field hfield) (by simp)
  | some field =>
    have hsame := List.find?_some hfind
    exact ⟨field, rfl, List.mem_of_find?_eq_some hfind, beq_iff_eq.1 hsame⟩

theorem readMember_own {field : String × (Nat → Reading → Except DecodeError Unit)}
    (hname : text.value = .ok name) (hfield : x.fields.find? (·.1 == name) = some field)
    (hnew : name ∉ before.map (·.1)) (hchecked : field.2 depth r = .ok ()) :
    readMember x.fields depth before text r = .ok (before ++ [(name, r)]) := by
  rw [← Members.get?_eq_none_iff] at hnew
  dsimp only [readMember, Decoder.orFault, bind, Except.bind]
  rw [hname]
  dsimp only
  rw [hfield]
  dsimp only
  rw [hnew, hchecked]
  rfl

theorem readMember_other (hname : text.value = .ok name) (hother : name ∉ x.names)
    (hfault : r.fault? = none) : readMember x.fields depth before text r = .ok before := by
  have hfield : x.fields.find? (·.1 == name) = none := by
    rw [List.find?_eq_none]
    intro field hfield hsame
    exact hother (beq_iff_eq.1 hsame ▸ List.mem_map_of_mem hfield)
  dsimp only [readMember, Decoder.orFault, bind, Except.bind]
  rw [hname]
  dsimp only
  rw [hfield, hfault]
  rfl

end

/-- An object that can be opened as a record: each field stands there at most once, and what stands
under other names can be read. -/
structure Opens (x : Shape α) (members : List (StringText × Reading)) (ms : Members) : Prop where
  spells : Spells members ms
  once : ((x.own ms).map (·.1)).Nodup
  other : ∀ m ∈ ms, m.1 ∉ x.names → m.2.fault? = none

/-- By induction on the members, behind those that were kept before. -/
theorem readMembers_eq (hspells : Spells members ms)
    (hchecked : ∀ field ∈ x.fields, ∀ r, (field.1, r) ∈ ms → field.2 depth r = .ok ())
    (hother : ∀ m ∈ ms, m.1 ∉ x.names → m.2.fault? = none)
    (hnodup : ((before ++ x.own ms).map (·.1)).Nodup) :
    readMembers x.fields depth none before members = .ok (before ++ x.own ms) := by
  induction hspells generalizing before with
  | nil =>
    rw [own, List.filter_nil, List.append_nil]
    rfl
  | @cons m n members ms hm _ ih =>
    obtain ⟨text, r⟩ := m
    obtain ⟨name, r'⟩ := n
    obtain ⟨hname, hr⟩ := hm
    dsimp only at hname hr
    subst hr
    have hrest : ∀ field ∈ x.fields, ∀ r, (field.1, r) ∈ ms → field.2 depth r = .ok () :=
      fun field hfield r hr => hchecked field hfield r (List.mem_cons_of_mem _ hr)
    have hothers : ∀ m ∈ ms, m.1 ∉ x.names → m.2.fault? = none :=
      fun m hm => hother m (List.mem_cons_of_mem _ hm)
    rw [readMembers]
    by_cases hown : name ∈ x.names
    · obtain ⟨field, hfield, hcheck, hsame⟩ := find?_of_mem_names hown
      rw [own_cons_of_mem hown, List.append_cons] at hnodup ⊢
      have hnew : name ∉ before.map (·.1) := by
        rw [List.map_append, List.map_append] at hnodup
        have hfront := (List.nodup_append.1 (List.nodup_append.1 hnodup).1).2.2
        exact fun h => hfront name h name (List.mem_singleton.2 rfl) rfl
      rw [readMember_own hname hfield hnew (hchecked field hcheck r (hsame ▸ List.mem_cons_self))]
      exact ih hrest hothers hnodup
    · rw [own_cons_of_not_mem hown] at hnodup ⊢
      rw [readMember_other hname hown (hother _ List.mem_cons_self hown)]
      exact ih hrest hothers hnodup

/-! ## Whole objects -/

variable {a : α} {record : String}

/-- Neither the order of the members nor those with other names have a part in what is decoded. -/
theorem decoder_object (hdepth : 0 < depth) (hopens : x.Opens members ms)
    (h : x.Reads depth ms.get? a) :
    x.decoder record (depth + 1) (.object members none) = .ok a := by
  have hchecked : ∀ field ∈ x.fields, ∀ r, (field.1, r) ∈ ms → field.2 depth r = .ok () := by
    intro field hfield r hr
    have hown : field.1 ∈ x.names := List.mem_map_of_mem hfield
    have hget : (x.own ms).get? field.1 = some r :=
      Members.get?_of_mem hopens.once (List.mem_filter.2 ⟨hr, decide_eq_true hown⟩)
    rw [get?_own hown] at hget
    exact h.checked field hfield r hget
  have hread : readMembers x.fields depth none [] members = .ok (x.own ms) :=
    readMembers_eq hopens.spells hchecked hopens.other hopens.once
  dsimp only [decoder, bind, Except.bind]
  rw [Decoder.enter_succ hdepth]
  dsimp only
  rw [hread]
  exact h.made (x.own ms) fun field hfield => get?_own (List.mem_map_of_mem hfield)

/-- The members as they are read of a written object. -/
def written (fields : List (String × Value)) : Members :=
  fields.map fun m => (m.1, m.2.reading)

theorem opens_written {fields : List (String × Value)} (hnames : x.names = fields.map (·.1))
    (hnodup : x.names.Nodup) : x.Opens (Value.memberReadings fields) (written fields) := by
  have hwritten : (written fields).map (·.1) = x.names := by
    rw [written, List.map_map, hnames]
    rfl
  have hmem : ∀ m ∈ written fields, m.1 ∈ x.names := by
    intro m hm
    rw [← hwritten]
    exact List.mem_map_of_mem hm
  have hown : x.own (written fields) = written fields :=
    List.filter_eq_self.2 fun m hm => decide_eq_true (hmem m hm)
  refine ⟨?_, ?_, fun m hm hother => absurd (hmem m hm) hother⟩
  · have hmembers : Value.memberReadings fields =
        (written fields).map fun m => (.ofString m.1, m.2) := by
      rw [Value.memberReadings_eq_map, written, List.map_map]
      rfl
    rw [hmembers]
    exact spells_ofString (written fields)
  · rw [hown, hwritten]
    exact hnodup

/-! ## Arrays -/

/-- The elements are those of the fields in their order, and make the record, whatever follows. -/
def Takes (x : Shape α) (depth : Nat) (rs : List Reading) (a : α) : Prop :=
  ∀ expected stop place rest,
    x.ofItems expected depth stop place (rs ++ rest) = .ok (a, place + rs.length, rest)

theorem Takes.pure (a : α) : (Shape.pure a).Takes depth [] a :=
  fun _ _ _ _ => rfl

theorem Takes.seq {x : Shape (α → β)} {y : Shape α} {f : α → β} {a : α} {rs more : List Reading}
    (hx : x.Takes depth rs f) (hy : y.Takes depth more a) :
    (x.seq y).Takes depth (rs ++ more) (f a) := by
  intro expected stop place rest
  dsimp only [Shape.seq, bind, Except.bind]
  rw [List.append_assoc, hx expected stop place (more ++ rest)]
  dsimp only
  rw [hy expected stop _ rest, List.length_append, Nat.add_assoc]
  rfl

theorem Takes.field {name : String} {d : Decoder α} {absent : Except DecodeError α}
    {short : Option α} {r : Reading} (hr : d depth r = .ok a) :
    (fieldWith name d absent short).Takes depth [r] a := by
  intro expected stop place rest
  dsimp only [fieldWith, List.cons_append, bind, Except.bind]
  rw [hr]
  rfl

theorem decoder_array {rs : List Reading} (hdepth : 0 < depth) (h : x.Takes depth rs a) :
    x.decoder record (depth + 1) (.array rs none) = .ok a := by
  have htaken := fun expected => h expected none 0 []
  rw [List.append_nil] at htaken
  dsimp only [decoder, bind, Except.bind]
  rw [Decoder.enter_succ hdepth]
  dsimp only
  rw [htaken]
  rfl

end Shape

end BlocklistWatch.Json
