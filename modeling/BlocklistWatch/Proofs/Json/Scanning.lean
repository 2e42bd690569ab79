import BlocklistWatch.Json.Value
import BlocklistWatch.Proofs.Json.Numbers

/-!
# The tokens of a written value

Cutting the written form of a value into tokens gives the tokens of the value, whatever follows in
the text, as long as it does not continue a number that the value ends with.

* `StringText.ofString` is a string as it is written; `StringText.value_ofString` reads it back and
  `scanString_stringChar` finds it in a text, character by character.
* `Value.tokens` are the tokens of a value.
* `Layout` is where blanks stand in a written form; `Value.laid_compact` and `Value.laid_pretty` say
  that both written forms are layouts.
* `Token.scan_laid` is the result for any layout.
-/

namespace BlocklistWatch.Json

/-! ## Strings -/

/-- How a character is written: a control character without a letter of its own by its number. -/
def StringUnit.ofChar (c : Char) : StringUnit :=
  if c.toNat < 0x20 ∧ c ∉ ['\x08', '\t', '\n', '\x0c', '\r'] then .code c.toNat else .char c

/-- A string as it is written. -/
def StringText.ofString (s : String) : StringText :=
  ⟨s.toList.map .ofChar, none⟩

theorem unitChars_map_ofChar (cs : List Char) : unitChars none (cs.map .ofChar) = .ok cs := by
  induction cs with
  | nil => rfl
  | cons c cs ih =>
    rw [List.map_cons, StringUnit.ofChar]
    by_cases hcode : c.toNat < 0x20 ∧ c ∉ ['\x08', '\t', '\n', '\x0c', '\r']
    · have hlow : ¬ (0xDC00 ≤ c.toNat ∧ c.toNat ≤ 0xDFFF) := by omega
      have hsingle : c.toNat < 0xD800 ∨ 0xDBFF < c.toNat := by omega
      rw [if_pos hcode, unitChars.eq_def]
      simp only [if_neg hlow, if_pos hsingle, ih, Char.ofNat_toNat]
      rfl
    · rw [if_neg hcode, unitChars, ih]
      rfl

theorem StringText.value_ofString (s : String) : (StringText.ofString s).value = .ok s := by
  rw [value, ofString, unitChars_map_ofChar]
  exact congrArg Except.ok String.ofList_toList

theorem unitOfHex?_of_lt {n : Nat} (h : n < 0x20) :
    unitOfHex? '0' '0' (Text.hexDigit (n / 16)) (Text.hexDigit (n % 16)) = some n := by
  have hzero : Text.hexValue? '0' = some 0 := rfl
  rw [unitOfHex?, hzero, Text.hexValue?_hexDigit _ (by omega),
    Text.hexValue?_hexDigit _ (Nat.mod_lt _ (by omega))]
  simp only [Option.bind_eq_bind, Option.bind_some, Option.pure_def, Option.some.injEq]
  omega

theorem scanString_stringChar (c : Char) (rest : List Char) :
    scanString (stringChar c ++ rest) =
      ((scanString rest).1.cons (.ofChar c), (scanString rest).2) := by
  unfold stringChar
  split
  · rfl
  · rfl
  · rfl
  · rfl
  · rfl
  · rfl
  · rfl
  · next hquote hslash hback htab hline hfeed hreturn =>
    have hletters : c ∉ ['\x08', '\t', '\n', '\x0c', '\r'] := by
      simp only [List.mem_cons, List.not_mem_nil, or_false, not_or]
      exact ⟨hback, htab, hline, hfeed, hreturn⟩
    rw [StringUnit.ofChar]
    by_cases hcontrol : c.toNat < 0x20
    · rw [if_pos hcontrol, if_pos ⟨hcontrol, hletters⟩]
      simp only [List.cons_append, List.nil_append]
      rw [scanString]
      simp only [unitOfHex?_of_lt hcontrol]
    · rw [if_neg hcontrol, if_neg fun h => hcontrol h.1, List.singleton_append, scanString]
      · rw [if_neg hcontrol]
      · exact hquote
      · exact hslash

/-- A written string is found up to its closing quote. -/
theorem scanString_stringChars (s : String) (rest : List Char) :
    scanString (s.toList.flatMap stringChar ++ '"' :: rest) = (.ofString s, rest) := by
  rw [StringText.ofString]
  induction s.toList with
  | nil => rfl
  | cons c cs ih =>
    rw [List.flatMap_cons, List.append_assoc, scanString_stringChar, ih]
    rfl

namespace Token

/-! ## Single tokens -/

variable (rest : List Char)

theorem scan_nil : scan [] = [] := by
  rw [scan]

theorem scan_blank {c : Char} (h : isBlank c = true) : scan (c :: rest) = scan rest := by
  rw [scan, if_pos h]

theorem scan_blanks {cs : List Char} (h : ∀ c ∈ cs, isBlank c = true) :
    scan (cs ++ rest) = scan rest := by
  induction cs with
  | nil => rfl
  | cons c cs ih =>
    rw [List.forall_mem_cons] at h
    rw [List.cons_append, scan_blank _ h.1]
    exact ih h.2

theorem scan_punctuation {c : Char} {t : Token} (h : punctuation? c = some t) :
    scan (c :: rest) = t :: scan rest := by
  have hplain : isBlank c = false ∧ c ≠ '"' ∧ c ≠ '-' ∧ Text.isDigit c = false := by
    unfold punctuation? at h
    split at h
    all_goals first
      | decide
      | exact absurd h (by simp)
  obtain ⟨hblank, hquote, hminus, hdigit⟩ := hplain
  rw [scan]
  simp only [hblank, hquote, hminus, hdigit, Bool.false_eq_true, if_false, h]

theorem plain_of_isDigit {c : Char} (h : Text.isDigit c = true) :
    isBlank c = false ∧ c ≠ '"' ∧ c ≠ '-' := by
  refine ⟨Bool.eq_false_iff.2 fun hblank => ?_, ?_, ?_⟩
  · simp only [isBlank, Bool.or_eq_true, beq_iff_eq] at hblank
    rcases hblank with ((rfl | rfl) | rfl) | rfl
    all_goals exact absurd h (by decide)
  · rintro rfl
    exact absurd h (by decide)
  · rintro rfl
    exact absurd h (by decide)

theorem scan_stringChars (s : String) :
    scan (stringChars s ++ rest) = .string (.ofString s) :: scan rest := by
  have hscan := scanString_stringChars s rest
  rw [stringChars, List.cons_append, List.cons_append, List.append_assoc, List.singleton_append,
    scan, if_neg (by decide), if_pos rfl, hscan]
  rfl

theorem scan_number (n : Number) {rest : List Char} (hrest : EndsNumber rest) :
    scan (n.chars ++ rest) = .number n.text :: scan rest := by
  have hscan := scanNumber_unsigned n.wellFormed_text true hrest
  rw [n.chars_eq, NumberText.chars]
  cases hnegative : n.text.negative with
  | true =>
    rw [hnegative] at hscan
    rw [if_pos rfl, List.cons_append, scan, if_neg (by decide), if_neg (by decide), if_pos rfl]
    split
    · next n' rest' h =>
      rw [hscan, Except.ok.injEq, Prod.mk.injEq] at h
      rw [← h.1, ← h.2]
    · next f h =>
      rw [hscan] at h
      exact absurd h (by simp)
  | false =>
    obtain ⟨c, cs, hchars, hdigit⟩ := n.wellFormed_text.exists_unsigned true
    obtain ⟨hblank, hquote, hminus⟩ := plain_of_isDigit hdigit
    rw [hnegative, hchars, List.cons_append] at hscan
    rw [if_neg Bool.false_ne_true, hchars, List.cons_append, scan]
    simp only [hblank, hquote, hminus, hdigit, Bool.false_eq_true, if_false, if_true]
    split
    · next n' rest' h =>
      rw [hscan, Except.ok.injEq, Prod.mk.injEq] at h
      rw [← h.1, ← h.2]
    · next f h =>
      rw [hscan] at h
      exact absurd h (by simp)

theorem scan_literal {c : Char} {letters : List Char} {t : Token}
    (h : literal? c = some (letters, t)) :
    scan (c :: letters ++ rest) = t :: scan rest := by
  have hliteral : ∀ ls : List Char, literal ls (ls ++ rest) = .ok rest := by
    intro ls
    induction ls with
    | nil => rfl
    | cons l ls ih =>
      rw [List.cons_append, literal, if_pos rfl]
      exact ih
  have hplain : isBlank c = false ∧ c ≠ '"' ∧ c ≠ '-' ∧ Text.isDigit c = false ∧
      punctuation? c = none := by
    unfold literal? at h
    split at h
    all_goals first
      | decide
      | exact absurd h (by simp)
  obtain ⟨hblank, hquote, hminus, hdigit, hpunctuation⟩ := hplain
  rw [List.cons_append, scan]
  simp only [hblank, hquote, hminus, hdigit, Bool.false_eq_true, if_false, hpunctuation, h]
  split
  · next rest' h' =>
    rw [hliteral letters, Except.ok.injEq] at h'
    rw [h']
  · next f h' =>
    rw [hliteral letters] at h'
    exact absurd h' (by simp)

end Token

/-! ## Values -/

namespace Value

mutual

/-- The tokens of a written value. -/
def tokens : Value → List Token
  | .null => [.null]
  | .bool b => [.bool b]
  | .number n => [.number n.text]
  | .string s => [.string (.ofString s)]
  | .array items => .openBracket :: itemTokens items
  | .object members => .openBrace :: memberTokens members

def itemTokens : List Value → List Token
  | [] => [.closeBracket]
  | v :: vs => tokens v ++ moreItemTokens vs

def moreItemTokens : List Value → List Token
  | [] => [.closeBracket]
  | v :: vs => .comma :: tokens v ++ moreItemTokens vs

def memberTokens : List (String × Value) → List Token
  | [] => [.closeBrace]
  | (name, v) :: ms => .string (.ofString name) :: .colon :: tokens v ++ moreMemberTokens ms

def moreMemberTokens : List (String × Value) → List Token
  | [] => [.closeBrace]
  | (name, v) :: ms =>
    .comma :: .string (.ofString name) :: .colon :: tokens v ++ moreMemberTokens ms

end

end Value

/-! ## Layouts -/

/-- The blanks of a written form: those in front of the elements, the members and the end at a
level, and those after a colon. -/
structure Layout where
  gap : Nat → List Char
  space : List Char
  gap_blank : ∀ level, ∀ c ∈ gap level, Token.isBlank c = true
  space_blank : ∀ c ∈ space, Token.isBlank c = true

namespace Layout

def compact : Layout where
  gap _ := []
  space := []
  gap_blank _ := List.forall_mem_nil _
  space_blank := List.forall_mem_nil _

def pretty : Layout where
  gap := Value.lineBreak
  space := [' ']
  gap_blank _ := List.forall_mem_cons.2 ⟨rfl, fun _ hc => by rw [List.eq_of_mem_replicate hc]; rfl⟩
  space_blank := List.forall_mem_singleton.2 rfl

end Layout

namespace Value

mutual

/-- The characters of a value at the given level in a layout. -/
def laid (l : Layout) (level : Nat) : Value → List Char
  | .null => ['n', 'u', 'l', 'l']
  | .bool true => ['t', 'r', 'u', 'e']
  | .bool false => ['f', 'a', 'l', 's', 'e']
  | .number n => n.chars
  | .string s => stringChars s
  | .array items => '[' :: laidItems l level items
  | .object members => '\x7b' :: laidMembers l level members

def laidItems (l : Layout) (level : Nat) : List Value → List Char
  | [] => [']']
  | v :: vs => l.gap (level + 1) ++ laid l (level + 1) v ++ laidMoreItems l level vs

def laidMoreItems (l : Layout) (level : Nat) : List Value → List Char
  | [] => l.gap level ++ [']']
  | v :: vs => ',' :: l.gap (level + 1) ++ laid l (level + 1) v ++ laidMoreItems l level vs

def laidMembers (l : Layout) (level : Nat) : List (String × Value) → List Char
  | [] => ['\x7d']
  | (name, v) :: ms =>
    l.gap (level + 1) ++ stringChars name ++ ':' :: l.space ++ laid l (level + 1) v ++
      laidMoreMembers l level ms

def laidMoreMembers (l : Layout) (level : Nat) : List (String × Value) → List Char
  | [] => l.gap level ++ ['\x7d']
  | (name, v) :: ms =>
    ',' :: l.gap (level + 1) ++ stringChars name ++ ':' :: l.space ++ laid l (level + 1) v ++
      laidMoreMembers l level ms

end

mutual

theorem laid_pretty (level : Nat) : ∀ v, laid .pretty level v = prettyChars level v
  | .null | .bool true | .bool false | .number _ | .string _ => rfl
  | .array items => congrArg ('[' :: ·) (laidItems_pretty level items)
  | .object members => congrArg ('\x7b' :: ·) (laidMembers_pretty level members)

theorem laidItems_pretty (level : Nat) : ∀ vs, laidItems .pretty level vs = prettyItems level vs
  | [] => rfl
  | v :: vs => by
    rw [laidItems, laid_pretty (level + 1) v, laidMoreItems_pretty level vs]
    rfl

theorem laidMoreItems_pretty (level : Nat) :
    ∀ vs, laidMoreItems .pretty level vs = prettyMoreItems level vs
  | [] => rfl
  | v :: vs => by
    rw [laidMoreItems, laid_pretty (level + 1) v, laidMoreItems_pretty level vs]
    rfl

theorem laidMembers_pretty (level : Nat) :
    ∀ ms, laidMembers .pretty level ms = prettyMembers level ms
  | [] => rfl
  | (name, v) :: ms => by
    rw [laidMembers, laid_pretty (level + 1) v, laidMoreMembers_pretty level ms, prettyMembers]
    simp [Layout.pretty]

theorem laidMoreMembers_pretty (level : Nat) :
    ∀ ms, laidMoreMembers .pretty level ms = prettyMoreMembers level ms
  | [] => rfl
  | (name, v) :: ms => by
    rw [laidMoreMembers, laid_pretty (level + 1) v, laidMoreMembers_pretty level ms,
      prettyMoreMembers]
    simp [Layout.pretty]

end

mutual

theorem laid_compact (level : Nat) : ∀ v, laid .compact level v = compactChars v
  | .null | .bool true | .bool false | .number _ | .string _ => rfl
  | .array items => congrArg ('[' :: ·) (laidItems_compact level items)
  | .object members => congrArg ('\x7b' :: ·) (laidMembers_compact level members)

theorem laidItems_compact (level : Nat) : ∀ vs, laidItems .compact level vs = compactItems vs
  | [] => rfl
  | v :: vs => by
    rw [laidItems, laid_compact (level + 1) v, laidMoreItems_compact level vs]
    rfl

theorem laidMoreItems_compact (level : Nat) :
    ∀ vs, laidMoreItems .compact level vs = compactMoreItems vs
  | [] => rfl
  | v :: vs => by
    rw [laidMoreItems, laid_compact (level + 1) v, laidMoreItems_compact level vs]
    rfl

theorem laidMembers_compact (level : Nat) : ∀ ms, laidMembers .compact level ms = compactMembers ms
  | [] => rfl
  | (name, v) :: ms => by
    rw [laidMembers, laid_compact (level + 1) v, laidMoreMembers_compact level ms, compactMembers]
    simp [Layout.compact]

theorem laidMoreMembers_compact (level : Nat) :
    ∀ ms, laidMoreMembers .compact level ms = compactMoreMembers ms
  | [] => rfl
  | (name, v) :: ms => by
    rw [laidMoreMembers, laid_compact (level + 1) v, laidMoreMembers_compact level ms,
      compactMoreMembers]
    simp [Layout.compact]

end

end Value

namespace Token

open Value

variable {l : Layout}

/-- The written value is found in front of any text that does not continue a number. -/
def Scans (l : Layout) (v : Value) : Prop :=
  ∀ level rest, EndsNumber rest → scan (laid l level v ++ rest) = v.tokens ++ scan rest

theorem endsNumber_gap (level : Nat) {rest : List Char} (h : EndsNumber rest) :
    EndsNumber (l.gap level ++ rest) := by
  have hblank := l.gap_blank level
  cases hgap : l.gap level with
  | nil => exact h
  | cons c cs =>
    have hc : isBlank c = true := hblank c (hgap ▸ List.mem_cons_self)
    simp only [isBlank, Bool.or_eq_true, beq_iff_eq] at hc
    refine endsNumber_cons ?_ _
    rcases hc with ((rfl | rfl) | rfl) | rfl
    all_goals decide

theorem endsNumber_moreItems (level : Nat) (items : List Value) (rest : List Char) :
    EndsNumber (laidMoreItems l level items ++ rest) := by
  cases items with
  | nil =>
    rw [laidMoreItems, List.append_assoc]
    exact endsNumber_gap level (endsNumber_cons (by decide) _)
  | cons v vs => exact endsNumber_cons (by decide) _

theorem endsNumber_moreMembers (level : Nat) (members : List (String × Value))
    (rest : List Char) : EndsNumber (laidMoreMembers l level members ++ rest) := by
  cases members with
  | nil =>
    rw [laidMoreMembers, List.append_assoc]
    exact endsNumber_gap level (endsNumber_cons (by decide) _)
  | cons m ms => exact endsNumber_cons (by decide) _

theorem scan_moreItems {items : List Value} (h : ∀ v ∈ items, Scans l v) (level : Nat)
    (rest : List Char) :
    scan (laidMoreItems l level items ++ rest) = moreItemTokens items ++ scan rest := by
  induction items with
  | nil =>
    rw [laidMoreItems, List.append_assoc, scan_blanks _ (l.gap_blank level)]
    exact scan_punctuation _ rfl
  | cons v vs ih =>
    rw [laidMoreItems, List.append_assoc, List.cons_append, List.cons_append, List.append_assoc,
      scan_punctuation _ rfl, scan_blanks _ (l.gap_blank (level + 1)),
      h v List.mem_cons_self _ _ (endsNumber_moreItems level vs rest),
      ih fun w hw => h w (List.mem_cons_of_mem v hw), moreItemTokens, List.cons_append,
      List.cons_append, List.append_assoc]

theorem scan_items {items : List Value} (h : ∀ v ∈ items, Scans l v) (level : Nat)
    (rest : List Char) :
    scan (laidItems l level items ++ rest) = itemTokens items ++ scan rest := by
  cases items with
  | nil => exact scan_punctuation _ rfl
  | cons v vs =>
    rw [laidItems, List.append_assoc, List.append_assoc, scan_blanks _ (l.gap_blank (level + 1)),
      h v List.mem_cons_self _ _ (endsNumber_moreItems level vs rest),
      scan_moreItems fun w hw => h w (List.mem_cons_of_mem v hw), itemTokens, List.append_assoc]

theorem scan_member (name : String) {v : Value} (h : Scans l v) (level : Nat) {rest : List Char}
    (hrest : EndsNumber rest) :
    scan (stringChars name ++ ':' :: (l.space ++ (laid l level v ++ rest))) =
      .string (.ofString name) :: .colon :: (v.tokens ++ scan rest) := by
  rw [scan_stringChars, scan_punctuation _ rfl, scan_blanks _ l.space_blank, h level rest hrest]

theorem scan_moreMembers {members : List (String × Value)} (h : ∀ m ∈ members, Scans l m.2)
    (level : Nat) (rest : List Char) :
    scan (laidMoreMembers l level members ++ rest) = moreMemberTokens members ++ scan rest := by
  induction members with
  | nil =>
    rw [laidMoreMembers, List.append_assoc, scan_blanks _ (l.gap_blank level)]
    exact scan_punctuation _ rfl
  | cons m ms ih =>
    rw [laidMoreMembers]
    simp only [List.append_assoc, List.cons_append]
    rw [scan_punctuation _ rfl, scan_blanks _ (l.gap_blank (level + 1)),
      scan_member _ (h m List.mem_cons_self) _ (endsNumber_moreMembers level ms rest),
      ih fun n hn => h n (List.mem_cons_of_mem m hn), moreMemberTokens]
    simp only [List.cons_append, List.append_assoc]

theorem scan_members {members : List (String × Value)} (h : ∀ m ∈ members, Scans l m.2)
    (level : Nat) (rest : List Char) :
    scan (laidMembers l level members ++ rest) = memberTokens members ++ scan rest := by
  cases members with
  | nil => exact scan_punctuation _ rfl
  | cons m ms =>
    rw [laidMembers]
    simp only [List.append_assoc, List.cons_append]
    rw [scan_blanks _ (l.gap_blank (level + 1)),
      scan_member _ (h m List.mem_cons_self) _ (endsNumber_moreMembers level ms rest),
      scan_moreMembers fun n hn => h n (List.mem_cons_of_mem m hn), memberTokens]
    simp only [List.cons_append, List.append_assoc]

mutual

/-- The tokens of a value are found in its form in any layout. -/
theorem scan_laid : ∀ v : Value, Scans l v
  | .null => fun _ rest _ => scan_literal rest (c := 'n') rfl
  | .bool true => fun _ rest _ => scan_literal rest (c := 't') rfl
  | .bool false => fun _ rest _ => scan_literal rest (c := 'f') rfl
  | .number n => fun _ _ hrest => scan_number n hrest
  | .string s => fun _ rest _ => scan_stringChars rest s
  | .array items => by
    intro level rest _
    rw [laid, List.cons_append, scan_punctuation _ rfl, scan_items (scans_items items)]
    rfl
  | .object members => by
    intro level rest _
    rw [laid, List.cons_append, scan_punctuation _ rfl, scan_members (scans_members members)]
    rfl

theorem scans_items : ∀ items : List Value, ∀ v ∈ items, Scans l v
  | [], _, hv => absurd hv List.not_mem_nil
  | w :: ws, v, hv => (List.mem_cons.1 hv).elim (fun h => h ▸ scan_laid w) (scans_items ws v)

theorem scans_members : ∀ members : List (String × Value), ∀ m ∈ members, Scans l m.2
  | [], _, hm => absurd hm List.not_mem_nil
  | (_, w) :: ms, m, hm =>
    (List.mem_cons.1 hm).elim (fun h => h ▸ scan_laid w) (scans_members ms m)

end

theorem scan_laid_alone (l : Layout) (v : Value) : scan (laid l 0 v) = v.tokens := by
  have hscan : scan (laid l 0 v ++ []) = v.tokens ++ scan [] :=
    scan_laid v 0 [] (by simp [EndsNumber])
  rwa [List.append_nil, scan_nil, List.append_nil] at hscan

theorem scan_compact (v : Value) : scan v.compact.toList = v.tokens := by
  rw [compact, String.toList_ofList, ← laid_compact 0]
  exact scan_laid_alone .compact v

theorem scan_pretty (v : Value) : scan v.pretty.toList = v.tokens := by
  rw [pretty, String.toList_ofList, ← laid_pretty]
  exact scan_laid_alone .pretty v

end Token

end BlocklistWatch.Json
