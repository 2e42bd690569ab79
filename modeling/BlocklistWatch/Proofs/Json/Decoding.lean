import BlocklistWatch.Json.Decoder
import BlocklistWatch.Proofs.Json.Building

/-!
# Free values survive writing and reading

A value that was decoded from a text with whole numbers only has members in increasing order and is
not nested too deeply, and every such value is decoded from its own written form.

* `ByName` lists of members are kept by `insertMember`; `sortMembers_of_byName` says that there is
  nothing to sort in them.
* `Value.Fits` holds of the values that can be decoded at a depth; `Decoder.fits_of_value` says that
  decoding gives no others, and `Decoder.value_reading` that it gives them all.
-/

namespace BlocklistWatch.Json

/-! ## Members by name -/

section Members

variable {α : Type} {name : String} {v : α} {ms front back : List (String × α)}

/-- The members are in increasing order of their names, no two of one name. -/
def ByName (ms : List (String × α)) : Prop :=
  ms.Pairwise fun m n => m.1 < n.1

theorem eq_or_mem_of_mem_insertMember {m : String × α} (h : m ∈ insertMember name v ms) :
    m = (name, v) ∨ m ∈ ms := by
  induction ms with
  | nil => exact .inl (List.mem_singleton.1 h)
  | cons first rest ih =>
    rw [insertMember] at h
    split at h
    · exact List.mem_cons.1 h
    · split at h
      · exact (List.mem_cons.1 h).imp_right (List.mem_cons_of_mem first)
      · rcases List.mem_cons.1 h with h | h
        · exact .inr (h ▸ List.mem_cons_self)
        · exact (ih h).imp_right (List.mem_cons_of_mem first)

theorem byName_insertMember (h : ByName ms) : ByName (insertMember name v ms) := by
  induction ms with
  | nil => exact List.pairwise_singleton _ _
  | cons first rest ih =>
    obtain ⟨hfirst, hrest⟩ := List.pairwise_cons.1 h
    rw [insertMember]
    split
    · next hless =>
      refine List.pairwise_cons.2 ⟨fun m hm => ?_, h⟩
      rcases List.mem_cons.1 hm with rfl | hm
      · exact hless
      · exact String.lt_trans hless (hfirst m hm)
    · next hnot =>
      split
      · next heq => exact List.pairwise_cons.2 ⟨fun m hm => heq ▸ hfirst m hm, hrest⟩
      · next hne =>
        refine List.pairwise_cons.2 ⟨fun m hm => ?_, ih hrest⟩
        rcases eq_or_mem_of_mem_insertMember hm with rfl | hm
        · exact Text.lt_of_not_lt_of_ne hnot hne
        · exact hfirst m hm

theorem insertMember_of_lt (h : ∀ m ∈ ms, m.1 < name) :
    insertMember name v ms = ms ++ [(name, v)] := by
  induction ms with
  | nil => rfl
  | cons first rest ih =>
    have hfirst : first.1 < name := h first List.mem_cons_self
    have hnot : ¬ name < first.1 := fun hless =>
      String.lt_irrefl name (String.lt_trans hless hfirst)
    have hne : name ≠ first.1 := fun heq => String.lt_irrefl name (heq ▸ hfirst)
    rw [insertMember, if_neg hnot, if_neg hne, ih fun m hm => h m (List.mem_cons_of_mem first hm)]
    rfl

theorem foldl_insertMember (h : ByName (front ++ back)) :
    back.foldl (fun sorted m => insertMember m.1 m.2 sorted) front = front ++ back := by
  induction back generalizing front with
  | nil => exact (List.append_nil front).symm
  | cons m back ih =>
    have hlast : ∀ n ∈ front, n.1 < m.1 := fun n hn =>
      (List.pairwise_append.1 h).2.2 n hn m List.mem_cons_self
    have hcons : front ++ m :: back = front ++ [m] ++ back := by simp
    rw [List.foldl_cons, insertMember_of_lt hlast, hcons]
    exact ih (hcons ▸ h)

theorem sortMembers_of_byName (h : ByName ms) : sortMembers ms = ms :=
  foldl_insertMember h

theorem byName_sortMembers (ms : List (String × α)) : ByName (sortMembers ms) := by
  have hfold : ∀ sorted : List (String × α), ByName sorted →
      ByName (ms.foldl (fun sorted m => insertMember m.1 m.2 sorted) sorted) := by
    induction ms with
    | nil => exact fun _ h => h
    | cons m ms ih => exact fun _ h => ih _ (byName_insertMember h)
  exact hfold [] List.Pairwise.nil

theorem mem_of_mem_sortMembers {m : String × α} (h : m ∈ sortMembers ms) : m ∈ ms := by
  have hfold : ∀ ns sorted : List (String × α),
      m ∈ ns.foldl (fun sorted m => insertMember m.1 m.2 sorted) sorted → m ∈ ns ∨ m ∈ sorted := by
    intro ns
    induction ns with
    | nil => exact fun _ hm => .inr hm
    | cons n ns ih =>
      intro sorted hm
      rcases ih _ hm with hm | hm
      · exact .inl (List.mem_cons_of_mem n hm)
      · rcases eq_or_mem_of_mem_insertMember hm with rfl | hm
        · exact .inl List.mem_cons_self
        · exact .inr hm
  exact (hfold ms [] h).resolve_right List.not_mem_nil

end Members

/-! ## Readings with whole numbers, values that fit -/

/-- All numbers in the tree are written as whole numbers. -/
inductive Reading.Whole : Reading → Prop
  | null : Whole .null
  | bool (b : Bool) : Whole (.bool b)
  | number {t : NumberText} : t.IsWhole → Whole (.number t)
  | badNumber (f : Fault) : Whole (.badNumber f)
  | badLiteral (f : Fault) : Whole (.badLiteral f)
  | string (s : StringText) : Whole (.string s)
  | array {items : List Reading} {stop : Option Fault} :
      (∀ r ∈ items, Whole r) → Whole (.array items stop)
  | object {members : List (StringText × Reading)} {stop : Option Fault} :
      (∀ m ∈ members, Whole m.2) → Whole (.object members stop)
  | nameless {found : Reading} : Whole found → Whole (.nameless found)
  | missing (f : Fault) : Whole (.missing f)

/-- The value can stand where only so many levels may still be entered, its numbers are whole, and
the members of its objects are in increasing order. -/
inductive Value.Fits : Nat → Value → Prop
  | null {depth : Nat} : Fits depth .null
  | bool {depth : Nat} (b : Bool) : Fits depth (.bool b)
  | number {depth : Nat} {n : Number} : n.IsWhole → Fits depth (.number n)
  | string {depth : Nat} (s : String) : Fits depth (.string s)
  | array {depth : Nat} {items : List Value} :
      (∀ v ∈ items, Fits depth v) → 0 < depth → Fits (depth + 1) (.array items)
  | object {depth : Nat} {members : List (String × Value)} :
      ByName members → (∀ m ∈ members, Fits depth m.2) → 0 < depth →
      Fits (depth + 1) (.object members)

namespace Decoder

/-! ## Steps of a decoder -/

theorem bind_eq_ok {ε α β : Type} {x : Except ε α} {f : α → Except ε β} {b : β} :
    (x >>= f) = .ok b ↔ ∃ a, x = .ok a ∧ f a = .ok b := by
  cases x with
  | ok a => simp [bind, Except.bind]
  | error e => simp [bind, Except.bind]

theorem map_eq_ok {ε α β : Type} {x : Except ε α} {f : α → β} {b : β} :
    x.map f = .ok b ↔ ∃ a, x = .ok a ∧ f a = b := by
  cases x with
  | ok a => simp [Except.map]
  | error e => simp [Except.map]

theorem enter_eq_ok {depth inner : Nat} :
    enter depth = .ok inner ↔ depth = inner + 1 ∧ 0 < inner := by
  unfold enter
  split
  · next hdepth =>
    constructor
    · intro h
      exact absurd h (by simp)
    · rintro ⟨rfl, hinner⟩
      omega
  · next hdepth =>
    rw [Except.ok.injEq]
    omega

theorem mismatch_ne_ok {α : Type} (expected : String) (r : Reading) (a : α) :
    mismatch expected r ≠ .ok a := by
  unfold mismatch
  cases shown r with
  | ok found => exact nofun
  | error e => exact nofun

theorem enter_succ {depth : Nat} (h : 0 < depth) : enter (depth + 1) = .ok depth :=
  enter_eq_ok.2 ⟨rfl, h⟩

/-! ## Values that were decoded -/

variable {depth : Nat} {stop : Option Fault}

theorem of_list {α : Type} {d : Decoder α} {r : Reading} {as : List α}
    (h : list d depth r = .ok as) :
    ∃ rs stop inner, r = .array rs stop ∧ enter depth = .ok inner ∧
      items d inner stop rs = .ok as := by
  cases r with
  | array rs stop =>
    obtain ⟨inner, hinner, hitems⟩ := bind_eq_ok.1 h
    exact ⟨rs, stop, inner, rfl, hinner, hitems⟩
  | bool | number | string => exact absurd h (mismatch_ne_ok "a sequence" _ as)
  | null | badNumber | badLiteral | object | nameless | missing => exact nomatch h

theorem forall_of_items {α : Type} {d : Decoder α} {P : α → Prop} {rs : List Reading}
    {as : List α} (hitem : ∀ r ∈ rs, ∀ a, d depth r = .ok a → P a)
    (h : items d depth stop rs = .ok as) : ∀ a ∈ as, P a := by
  induction rs generalizing as with
  | nil =>
    obtain ⟨-, -, rfl⟩ := map_eq_ok.1 h
    exact fun _ ha => absurd ha List.not_mem_nil
  | cons r rs ih =>
    rw [items, bind_eq_ok] at h
    obtain ⟨b, hb, h⟩ := h
    obtain ⟨bs, hbs, h⟩ := bind_eq_ok.1 h
    obtain rfl := Except.ok.inj h
    intro a ha
    rcases List.mem_cons.1 ha with rfl | ha
    · exact hitem r List.mem_cons_self a hb
    · exact ih (fun r' hr' => hitem r' (List.mem_cons_of_mem r hr')) hbs a ha

theorem valueItems_eq_items (rs : List Reading) :
    valueItems depth stop rs = items value depth stop rs := by
  induction rs with
  | nil => rfl
  | cons r rs ih => rw [valueItems, items, ih]

theorem forall_of_valueMembers {P : Value → Prop} {rs : List (StringText × Reading)}
    {ms : List (String × Value)} (hmember : ∀ r ∈ rs, ∀ v, value depth r.2 = .ok v → P v)
    (h : valueMembers depth stop rs = .ok ms) : ∀ m ∈ ms, P m.2 := by
  induction rs generalizing ms with
  | nil =>
    obtain ⟨-, -, rfl⟩ := map_eq_ok.1 h
    exact fun _ hm => absurd hm List.not_mem_nil
  | cons r rs ih =>
    rw [valueMembers, bind_eq_ok] at h
    obtain ⟨name, -, h⟩ := h
    obtain ⟨w, hw, h⟩ := bind_eq_ok.1 h
    obtain ⟨ws, hws, h⟩ := bind_eq_ok.1 h
    obtain rfl := Except.ok.inj h
    intro m hm
    rcases List.mem_cons.1 hm with rfl | hm
    · exact hmember r List.mem_cons_self w hw
    · exact ih (fun r' hr' => hmember r' (List.mem_cons_of_mem r hr')) hws m hm

theorem isWhole_of_numberOf {t : NumberText} {n : Number} (ht : t.IsWhole)
    (h : numberOf t = .ok n) : n.IsWhole := by
  unfold numberOf at h
  split at h
  · next n' hread =>
    rw [← Except.ok.inj h]
    exact Number.isWhole_of_ofText? ht hread
  · exact nomatch h

/-- What is decoded from a tree with whole numbers fits where it stood. -/
theorem fits_of_value {r : Reading} (hr : r.Whole) {v : Value} (h : value depth r = .ok v) :
    v.Fits depth := by
  induction hr generalizing depth v with
  | null => exact Except.ok.inj h ▸ .null
  | bool b => exact Except.ok.inj h ▸ .bool b
  | number ht =>
    obtain ⟨n, hn, rfl⟩ := map_eq_ok.1 h
    exact .number (isWhole_of_numberOf ht hn)
  | string s =>
    obtain ⟨text, -, rfl⟩ := map_eq_ok.1 h
    exact .string text
  | array _ ih =>
    rw [value, bind_eq_ok] at h
    obtain ⟨inner, hinner, h⟩ := h
    obtain ⟨rfl, hdepth⟩ := enter_eq_ok.1 hinner
    obtain ⟨vs, hvs, h⟩ := bind_eq_ok.1 h
    obtain rfl := Except.ok.inj h
    rw [valueItems_eq_items] at hvs
    exact .array (forall_of_items (fun r hr _ => ih r hr) hvs) hdepth
  | object _ ih =>
    rw [value, bind_eq_ok] at h
    obtain ⟨inner, hinner, h⟩ := h
    obtain ⟨rfl, hdepth⟩ := enter_eq_ok.1 hinner
    obtain ⟨ms, hms, h⟩ := bind_eq_ok.1 h
    obtain rfl := Except.ok.inj h
    have hfits := forall_of_valueMembers (fun r hr _ => ih r hr) hms
    exact .object (byName_sortMembers ms) (fun m hm => hfits m (mem_of_mem_sortMembers hm)) hdepth
  | badNumber | badLiteral | missing => exact nomatch h
  | nameless => exact nomatch h

/-! ## Written values -/

theorem items_map {α : Type} {d : Decoder α} {tree : α → Reading} {as : List α}
    (h : ∀ a ∈ as, d depth (tree a) = .ok a) : items d depth none (as.map tree) = .ok as := by
  induction as with
  | nil => rfl
  | cons a as ih =>
    rw [List.map_cons, items, h a List.mem_cons_self,
      ih fun b hb => h b (List.mem_cons_of_mem a hb)]
    rfl

theorem numberOf_text {n : Number} (h : n.IsWhole) : numberOf n.text = .ok n := by
  unfold numberOf
  rw [Number.ofText?_text h]

theorem orFault_value_ofString (s : String) : orFault (StringText.ofString s).value = .ok s := by
  rw [StringText.value_ofString]
  rfl

theorem valueMembers_map_reading {members : List (String × Value)}
    (h : ∀ m ∈ members, value depth m.2.reading = .ok m.2) :
    valueMembers depth none
      (members.map fun m => (StringText.ofString m.1, m.2.reading)) = .ok members := by
  induction members with
  | nil => rfl
  | cons m ms ih =>
    rw [List.map_cons, valueMembers, orFault_value_ofString, h m List.mem_cons_self,
      ih fun n hn => h n (List.mem_cons_of_mem m hn)]
    rfl

/-- A value that fits is decoded from its own tree. -/
theorem value_reading {v : Value} (h : v.Fits depth) : value depth v.reading = .ok v := by
  induction h with
  | null => rfl
  | bool b => rfl
  | number hn => rw [Value.reading, value, numberOf_text hn]; rfl
  | string s => rw [Value.reading, value, orFault_value_ofString]; rfl
  | array _ hdepth ih =>
    rw [Value.reading, Value.itemReadings_eq_map, value, enter_succ hdepth]
    simp only [bind, Except.bind, valueItems_eq_items, items_map ih]
    rfl
  | object hnames _ hdepth ih =>
    rw [Value.reading, Value.memberReadings_eq_map, value, enter_succ hdepth]
    simp only [bind, Except.bind, valueMembers_map_reading ih, sortMembers_of_byName hnames]
    rfl

/-! ## Whole texts -/

theorem run_eq_ok {α : Type} {d : Decoder α} {text : String} {a : α} :
    d.run text = .ok a ↔
      d maxDepth (Reading.ofString text).1 = .ok a ∧ (Reading.ofString text).2 = false := by
  unfold run
  cases hread : d maxDepth (Reading.ofString text).1 with
  | error e => simp [hread]
  | ok b => cases hmore : (Reading.ofString text).2 <;> simp [hread, hmore]

end Decoder

end BlocklistWatch.Json
