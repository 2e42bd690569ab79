import Mathlib.Algebra.Group.Nat.Defs
import BlocklistWatch.Proofs.Text.Digits
import BlocklistWatch.Proofs.Text.Parser
import BlocklistWatch.Proofs.Yaml.TextList
import BlocklistWatch.Proofs.Yaml.WrittenText

/-!
# Written texts are read back

Each style has a reader of its own, and what is written in a style is read back by that reader, as
long as what follows the text cannot be taken for a part of it.

* `doubleQuotedChar_written` is one character between double quotes, whether it is written as it is,
  by a letter or by its number.
* `many_hung` reads a text of several lines, `quoted_singleQuoted` between quotes and
  `literal_written` as a block.
* `plain_written` is a text without quotes.
* `scalar_written` is a text in whatever style was chosen for it.
-/

namespace BlocklistWatch.Yaml

/-! ## Characters by number -/

namespace Sheet

def hexCapital (n : Nat) : Char :=
  let c := Text.hexDigit n
  if 'a' ≤ c ∧ c ≤ 'f' then Char.ofNat (c.toNat - 32) else c

theorem hexValue?_hexCapital : ∀ n < 16, Text.hexValue? (hexCapital n) = some n := by
  decide

theorem hexCapitals_one {n : Nat} (h : n < 16) : hexCapitals 1 n = [hexCapital n] := by
  have hdigits : Text.digitsOnto 16 n [] = [Text.hexDigit n] := by
    rw [Text.digitsOnto, dif_pos (.inl h)]
  rw [hexCapitals, hdigits]
  rfl

theorem hexCapitals_succ (width n : Nat) :
    hexCapitals (width + 2) n = hexCapitals (width + 1) (n / 16) ++ [hexCapital (n % 16)] := by
  have hpadded : Text.padZeros (width + 2) (Text.digitsOnto 16 n []) =
      Text.padZeros (width + 1) (Text.digitsOnto 16 (n / 16) []) ++ [Text.hexDigit (n % 16)] := by
    by_cases hlast : n < 16
    · have hdigit : ∀ m < 16, Text.digitsOnto 16 m [] = [Text.hexDigit m] := by
        intro m hm
        rw [Text.digitsOnto, dif_pos (.inl hm)]
      have hzero : Text.hexDigit 0 = '0' := rfl
      rw [hdigit n hlast, Nat.div_eq_of_lt hlast, hdigit 0 (by omega), Nat.mod_eq_of_lt hlast,
        hzero]
      exact congrArg (· ++ [Text.hexDigit n]) (List.replicate_succ' (n := width) (a := '0'))
    · have hdigits : Text.digitsOnto 16 n [] =
          Text.digitsOnto 16 (n / 16) [] ++ [Text.hexDigit (n % 16)] := by
        rw [Text.digitsOnto, dif_neg (by omega)]
        exact Text.digitsOnto_append 16 (n / 16) [] [Text.hexDigit (n % 16)]
      rw [hdigits, Text.padZeros, Text.padZeros, List.length_append, List.length_singleton,
        Nat.succ_sub_succ_eq_sub (width + 1), List.append_assoc]
  rw [hexCapitals, hpadded, List.map_append, hexCapitals]
  rfl

theorem digitsIn?_concat {base v d : Nat} {cs : List Char} {c : Char}
    (hcs : digitsIn? base cs = some v) (hc : Text.hexValue? c = some d) (hd : d < base) :
    digitsIn? base (cs ++ [c]) = some (v * base + d) := by
  have hne : cs ≠ [] := by
    rintro rfl
    exact absurd hcs (by simp [digitsIn?])
  rw [digitsIn?, if_neg hne] at hcs
  rw [digitsIn?, if_neg (by simp), List.foldl_append, hcs]
  simp [hc, hd]

/-- A number that is not too large for the given number of digits is written with so many. -/
theorem hexCapitals_reads {width n : Nat} (h : n < 16 ^ (width + 1)) :
    (hexCapitals (width + 1) n).length = width + 1 ∧
      digitsIn? 16 (hexCapitals (width + 1) n) = some n := by
  induction width generalizing n with
  | zero =>
    have hn : n < 16 := by simpa using h
    rw [hexCapitals_one hn]
    exact ⟨rfl, by simp [digitsIn?, hexValue?_hexCapital n hn, hn]⟩
  | succ width ih =>
    have hfront : n / 16 < 16 ^ (width + 1) := by
      rw [Nat.pow_succ] at h
      omega
    have hlast : n % 16 < 16 := Nat.mod_lt _ (by omega)
    obtain ⟨hlength, hdigits⟩ := ih hfront
    rw [hexCapitals_succ, List.length_append, hlength,
      digitsIn?_concat hdigits (hexValue?_hexCapital _ hlast) hlast]
    refine ⟨rfl, congrArg some ?_⟩
    omega

end Sheet

namespace TextList

open Text (Parser)

theorem numberedChar_hexCapitals {width : Nat} {c : Char} (h : c.toNat < 16 ^ (width + 1))
    (rest : List Char) :
    numberedChar (width + 1) (Sheet.hexCapitals (width + 1) c.toNat ++ rest) = some (c, rest) := by
  obtain ⟨hlength, hdigits⟩ := Sheet.hexCapitals_reads h
  have henough : width + 1 ≤ (Sheet.hexCapitals (width + 1) c.toNat ++ rest).length := by
    rw [List.length_append, hlength]
    exact Nat.le_add_right _ _
  have hvalid : c.toNat.isValidChar := c.valid
  rw [numberedChar, if_pos henough, List.take_left' hlength, List.drop_left' hlength, hdigits]
  simp only [if_pos hvalid, Char.ofNat_toNat]

theorem letterChar?_of_escapeLetter? {c l : Char} (h : Sheet.escapeLetter? c = some l) :
    letterChar? l = some c ∧ l ≠ 'x' ∧ l ≠ 'u' ∧ l ≠ 'U' := by
  unfold Sheet.escapeLetter? at h
  split at h
  case h_16 => exact absurd h (by simp)
  all_goals
    next hcode =>
      obtain rfl := Option.some.inj h
      refine ⟨?_, by decide, by decide, by decide⟩
      rw [← Char.ofNat_toNat c, hcode]
      rfl

theorem doubleQuotedChar_written (c : Char) (rest : List Char) :
    doubleQuotedChar (Sheet.doubleQuotedChar c ++ rest) = some (c, rest) := by
  unfold Sheet.doubleQuotedChar
  split
  · next hplain =>
    simp only [Bool.and_eq_true, Bool.not_eq_true', bne_iff_ne] at hplain
    obtain ⟨⟨⟨-, hbreak⟩, hquote⟩, hslash⟩ := hplain
    rw [List.singleton_append, doubleQuotedChar]
    · simp [hquote, hslash, hbreak]
    all_goals
      intros
      contradiction
  · cases hletter : Sheet.escapeLetter? c with
    | some l =>
      obtain ⟨hchar, hx, hu, hU⟩ := letterChar?_of_escapeLetter? hletter
      simp only [List.cons_append, List.nil_append]
      rw [doubleQuotedChar]
      · rw [hchar]
        rfl
      all_goals assumption
    | none =>
      have hvalid : c.toNat < 0xD800 ∨ 0xDFFF < c.toNat ∧ c.toNat < 0x110000 := c.valid
      simp only
      split
      · exact numberedChar_hexCapitals (by omega) rest
      · split
        · exact numberedChar_hexCapitals (by omega) rest
        · exact numberedChar_hexCapitals (by omega) rest

theorem quoted_doubleQuoted (cs rest : List Char) :
    quoted '"' doubleQuotedChar (cs.flatMap Sheet.doubleQuotedChar ++ '"' :: rest) =
      some (cs, rest) := by
  have hmany : Parser.many doubleQuotedChar
      (cs.flatMap Sheet.doubleQuotedChar ++ '"' :: rest) = (cs, '"' :: rest) := by
    refine Parser.many_flatMap (fun _ => True)
      (fun c _ rest _ => doubleQuotedChar_written c rest) (fun _ _ _ => trivial)
      (fun c _ hnil => ?_) trivial (by simp [doubleQuotedChar])
    have hread := doubleQuotedChar_written c []
    rw [hnil] at hread
    exact absurd hread (by simp [doubleQuotedChar])
  rw [quoted, hmany]
  rfl

/-! ## Lines that hang under a first one -/

/-- A break that can be printed is the line feed or a separator. -/
theorem isSeparator_of_isBreak {c : Char} (hbreak : isBreak c = true)
    (hprintable : isPrintable c = true) (hline : c ≠ '\n') : isSeparator c = true := by
  simp only [isBreak, Bool.or_eq_true, beq_iff_eq] at hbreak
  rcases hbreak with (((rfl | rfl) | rfl) | rfl) | rfl
  · exact absurd rfl hline
  · exact absurd hprintable (by decide)
  · exact absurd hprintable (by decide)
  · decide
  · decide

theorem isSeparator_of_not_isBreak {c : Char} (h : isBreak c = false) : isSeparator c = false := by
  simp only [isBreak, Bool.or_eq_false_iff] at h
  rw [isSeparator, h.1.2, h.2]
  rfl

theorem head?_hung {char : Char → List Char} (hchar : ∀ c, (char c).head? = some c) (c : Char)
    (cs rest : List Char) : (hung char (c :: cs) ++ rest).head? = some c := by
  rw [hung]
  split
  · rfl
  · obtain ⟨more, hmore⟩ := List.head?_eq_some_iff.1 (hchar c)
    rw [hmore]
    rfl

/-- After a break inside a text the next line begins as the text goes on. -/
theorem indented?_lineStart {char : Char → List Char} (hchar : ∀ c, (char c).head? = some c)
    {cs : List Char} (hne : cs ≠ []) (rest : List Char) :
    indented? (lineStart cs ++ (hung char cs ++ rest)) = some (hung char cs ++ rest) := by
  obtain ⟨d, ds, rfl⟩ := List.exists_cons_of_ne_nil hne
  cases hd : isBreak d with
  | false =>
    have hstart : lineStart (d :: ds) = [' ', ' '] := if_neg (by simp [hd])
    rw [hstart]
    rfl
  | true =>
    have hstart : lineStart (d :: ds) = [] := if_pos hd
    obtain ⟨more, hmore⟩ := List.head?_eq_some_iff.1 (head?_hung hchar d ds rest)
    have hspace : d ≠ ' ' := by
      rintro rfl
      exact absurd hd (by decide)
    rw [hstart, List.nil_append, hmore, indented?]
    · exact if_pos hd
    · intros
      contradiction

theorem literalChar_hung {c : Char} {cs rest : List Char} (hprintable : isPrintable c = true)
    (hlast : isBreak (cs.getLastD c) = false) :
    literalChar (hung (fun c => [c]) (c :: cs) ++ rest) =
      some (c, hung (fun c => [c]) cs ++ rest) := by
  rw [hung, List.append_assoc]
  cases hc : isBreak c with
  | false =>
    have hline : c ≠ '\n' := by
      rintro rfl
      exact absurd hc (by decide)
    simp [literalChar, hline, isSeparator_of_not_isBreak hc, hc]
  | true =>
    have hne : cs ≠ [] := by
      rintro rfl
      exact absurd hlast (by simp [hc])
    have hkept : (c == '\n' || isSeparator c) = true := by
      by_cases hline : c = '\n'
      · simp [hline]
      · simp [isSeparator_of_isBreak hc hprintable hline]
    simp only [if_true, List.cons_append, literalChar, hkept]
    rw [indented?_lineStart (fun _ => rfl) hne]
    rfl

theorem head?_quoteChar (c : Char) : (quoteChar c).head? = some c := by
  unfold quoteChar
  split
  · next h => rw [h, List.head?_cons]
  · rfl

theorem singleQuotedChar_hung {c : Char} {cs rest : List Char} (hprintable : isPrintable c = true)
    (hline : c ≠ '\n') (hspaces : Traits.spaceAtBreak (c :: cs) = false)
    (hlast : isBreak (cs.getLastD c) = false) :
    singleQuotedChar (hung quoteChar (c :: cs) ++ '\'' :: rest) =
      some (c, hung quoteChar cs ++ '\'' :: rest) := by
  rw [Traits.spaceAtBreak, Bool.or_eq_false_iff] at hspaces
  rw [hung, List.append_assoc]
  cases hc : isBreak c with
  | true =>
    have hquote : c ≠ '\'' := by
      rintro rfl
      exact absurd hc (by decide)
    obtain ⟨d, ds, rfl⟩ : ∃ d ds, cs = d :: ds := List.exists_cons_of_ne_nil <| by
      rintro rfl
      exact absurd hlast (by simp [hc])
    obtain ⟨hspace, -⟩ : d ≠ ' ' ∧ (c = ' ' → isBreak d = false) := by
      simpa [hc] using hspaces.1
    simp only [if_true, List.cons_append]
    rw [singleQuotedChar]
    · rw [if_pos (isSeparator_of_isBreak hc hprintable hline),
        indented?_lineStart head?_quoteChar (List.cons_ne_nil d ds)]
      simp [Option.filter, head?_hung head?_quoteChar, hspace]
    · exact hquote
  | false =>
    simp only [Bool.false_eq_true, if_false]
    by_cases hquote : c = '\''
    · rw [hquote, quoteChar, if_pos rfl]
      rfl
    · -- A space stands in front of the next character or of the closing quote.
      have hafter : (c == ' ' &&
          (hung quoteChar cs ++ '\'' :: rest).head?.any isBreak) = false := by
        cases cs with
        | nil =>
          have hclose : isBreak '\'' = false := by decide
          simp [hung, hclose]
        | cons d ds => simpa [head?_hung head?_quoteChar, hc] using hspaces.1
      rw [quoteChar, if_neg hquote, List.singleton_append, singleQuotedChar]
      · rw [isSeparator_of_not_isBreak hc, hc, hafter]
        rfl
      · exact hquote

/-- Lines that hang are read character by character, if that is how one character is read. -/
theorem many_hung {p : Parser Char} {char : Char → List Char} {rest : List Char}
    (hchar : ∀ c, (char c).head? = some c) (hstop : p rest = none) {cs : List Char}
    (hread : ∀ front c back, cs = front ++ c :: back →
      p (hung char (c :: back) ++ rest) = some (c, hung char back ++ rest)) :
    Parser.many p (hung char cs ++ rest) = (cs, rest) := by
  induction cs with
  | nil => exact Parser.many_of_none hstop
  | cons c cs ih =>
    have hne : (if isBreak c then c :: lineStart cs else char c) ≠ [] := by
      split
      · exact List.cons_ne_nil _ _
      · obtain ⟨more, hmore⟩ := List.head?_eq_some_iff.1 (hchar c)
        rw [hmore]
        exact List.cons_ne_nil _ _
    have hfirst := hread [] c cs rfl
    rw [hung, List.append_assoc] at hfirst ⊢
    rw [Parser.many_of_some hne hfirst,
      ih fun front d back hsplit => hread (c :: front) d back (congrArg (c :: ·) hsplit)]

theorem spaceAtBreak_of_append {front back : List Char}
    (h : Traits.spaceAtBreak (front ++ back) = false) : Traits.spaceAtBreak back = false := by
  induction front with
  | nil => exact h
  | cons c front ih =>
    rw [List.cons_append, Traits.spaceAtBreak, Bool.or_eq_false_iff] at h
    exact ih h.2

variable {cs rest : List Char}

theorem isBreak_of_split (h : Trimmed cs) {front back : List Char} {c : Char}
    (hsplit : cs = front ++ c :: back) : isBreak (back.getLastD c) = false := by
  have hlast : cs.getLastD c = back.getLastD c := by
    rw [hsplit]
    simp [List.getLastD_eq_getLast?, List.getLast?_append, List.getLast?_cons]
  rw [← hlast]
  exact h.isBreak_getLastD c

theorem quoted_singleQuoted (hline : '\n' ∉ cs) (hprintable : ∀ c ∈ cs, isPrintable c = true)
    (hspaces : Traits.spaceAtBreak cs = false) (h : Trimmed cs) :
    quoted '\'' singleQuotedChar (hung quoteChar cs ++ '\'' :: '\n' :: rest) =
      some (cs, '\n' :: rest) := by
  have hmany : Parser.many singleQuotedChar (hung quoteChar cs ++ '\'' :: '\n' :: rest) =
      (cs, '\'' :: '\n' :: rest) := by
    refine many_hung head?_quoteChar rfl fun front c back hsplit => ?_
    have hmem : c ∈ cs := by simp [hsplit]
    exact singleQuotedChar_hung (hprintable c hmem) (fun h => hline (h ▸ hmem))
      (spaceAtBreak_of_append (hsplit ▸ hspaces)) (isBreak_of_split h hsplit)
  rw [quoted, hmany]
  rfl

theorem isBoundary_of_not_isBlank {c : Char} (hblank : Text.isBlank c = false)
    (hprintable : isPrintable c = true) : isBoundary (some c) = false := by
  have hne : c ≠ ' ' ∧ c ≠ '\t' ∧ c ≠ '\x00' := by
    refine ⟨?_, ?_, ?_⟩
    · rintro rfl
      exact absurd hblank (by decide)
    · rintro rfl
      exact absurd hblank (by decide)
    · rintro rfl
      exact absurd hprintable (by decide)
  simp [isBoundary, hne, isBreak_of_not_isBlank hblank]

/-- What may come after the line of a text: nothing, or the next element. -/
def EndsItem (rest : List Char) : Prop :=
  rest = [] ∨ rest.head? = some '-'

theorem literal_written (hprintable : ∀ c ∈ cs, isPrintable c = true) (h : Trimmed cs)
    (hrest : EndsItem rest) :
    literal (['-', '\n'] ++ lineStart cs ++ hung (fun c => [c]) cs ++ '\n' :: rest) =
      some (cs, '\n' :: rest) := by
  have hstop : literalChar ('\n' :: rest) = none := by
    rcases hrest with rfl | hhead
    · rfl
    · obtain ⟨more, rfl⟩ := List.head?_eq_some_iff.1 hhead
      rfl
  have hmany : Parser.many literalChar (hung (fun c => [c]) cs ++ '\n' :: rest) =
      (cs, '\n' :: rest) := by
    refine many_hung (fun _ => rfl) hstop fun front c back hsplit => ?_
    exact literalChar_hung (hprintable c (by simp [hsplit])) (isBreak_of_split h hsplit)
  obtain ⟨c, more, hfirst, hbegins⟩ := h.first
  have hstart : lineStart cs = [' ', ' '] := by
    rw [hfirst]
    exact if_neg (by simp [isBreak_of_not_isBlank hbegins])
  have hbounds : (isBoundary cs.head? || cs.getLast?.any isBreak) = false := by
    obtain ⟨d, front, hlast, hends⟩ := h.last
    have hfront : isBoundary cs.head? = false := by
      rw [hfirst, List.head?_cons]
      exact isBoundary_of_not_isBlank hbegins (hprintable c (by simp [hfirst]))
    rw [hfront, hlast, List.getLast?_concat, Option.any_some, isBreak_of_not_isBlank hends]
    rfl
  have hexact := Parser.exactly_append ['-', '\n', ' ', ' ']
    (hung (fun c => [c]) cs ++ '\n' :: rest)
  rw [hstart, literal]
  simp only [List.cons_append, List.nil_append] at hexact ⊢
  simp only [hexact, Option.bind_eq_bind, Option.bind_some, hmany, hbounds]
  rfl

theorem ne_tab_of_isPrintable {c : Char} (h : isPrintable c = true) : c ≠ '\t' := by
  rintro rfl
  exact absurd h (by decide)

theorem goesOnPlain_of_meansStructure {before : Char} (hprintable : ∀ c ∈ cs, isPrintable c = true)
    (hclear : Traits.meansStructure (some before) cs = false)
    (hlast : cs.getLastD before ≠ ' ') : goesOnPlain before cs = true := by
  induction cs generalizing before with
  | nil => simpa [goesOnPlain] using hlast
  | cons c cs ih =>
    rw [List.forall_mem_cons] at hprintable
    rw [Traits.meansStructure, isIndicator, Bool.or_eq_false_iff, Bool.or_eq_false_iff] at hclear
    obtain ⟨⟨hcolon, hsign⟩, hrest⟩ := hclear
    rw [List.getLastD_cons] at hlast
    have hspace : (c == '#' && before == ' ') = false := by
      by_contra hnot
      simp only [Bool.not_eq_false, Bool.and_eq_true, beq_iff_eq] at hnot
      rw [hnot.1, hnot.2] at hsign
      exact absurd hsign (by decide)
    rw [goesOnPlain, hcolon, hspace, ih hprintable.2 hrest hlast]
    simp [ne_tab_of_isPrintable hprintable.1]

theorem isPlain_of_meansStructure (hprintable : ∀ c ∈ cs, isPrintable c = true)
    (hclear : Traits.meansStructure none cs = false) (h : Trimmed cs) : isPlain cs = true := by
  obtain ⟨c, more, rfl, hbegins⟩ := h.first
  have hlast : more.getLastD c ≠ ' ' := by
    obtain ⟨d, front, hsplit, hends⟩ := h.last
    have hd : (c :: more).getLastD c = d := by rw [hsplit, List.getLastD_concat]
    rw [List.getLastD_cons] at hd
    rw [hd]
    rintro rfl
    exact absurd hends (by decide)
  have hspace : c ≠ ' ' := by
    rintro rfl
    exact absurd hbegins (by decide)
  rw [List.forall_mem_cons] at hprintable
  rw [Traits.meansStructure, isIndicator, Bool.or_eq_false_iff, Bool.or_eq_false_iff] at hclear
  obtain ⟨⟨hindicator, hmark⟩, hrest⟩ := hclear
  rw [isPlain, hindicator, hmark, goesOnPlain_of_meansStructure hprintable.2 hrest hlast]
  simp [hspace, ne_tab_of_isPrintable hprintable.1]

theorem plain_written (hclear : isAmbiguous cs = false) (hplain : isPlain cs = true)
    (hbreak : ∀ c ∈ cs, isBreak c = false) :
    plain (cs ++ '\n' :: rest) = some (cs, '\n' :: rest) := by
  have hline : ∀ c ∈ cs, (!isBreak c) = true := by simpa using hbreak
  have hend : isBreak '\n' = true := by decide
  have htake : (cs ++ '\n' :: rest).takeWhile (fun c => !isBreak c) = cs := by
    rw [List.takeWhile_append_of_pos hline]
    simp [hend]
  have hdrop : (cs ++ '\n' :: rest).dropWhile (fun c => !isBreak c) = '\n' :: rest := by
    rw [List.dropWhile_append_of_pos hline]
    simp [hend]
  rw [plain, htake, hdrop, hplain, hclear]
  rfl

/-- A trimmed text is read back as it was written, whatever its style. -/
theorem scalar_written (h : Trimmed cs) (hrest : EndsItem rest) :
    scalar (scalarChars cs ++ '\n' :: rest) = some (cs, '\n' :: rest) := by
  rw [scalarChars]
  have hchosen := ScalarStyle.chosen_forText cs
  generalize ScalarStyle.forText cs = style at hchosen
  cases hchosen with
  | plain hclear hallowed =>
    obtain ⟨hprintable, hbreak, hstructure⟩ := Traits.of_allowsPlain hallowed
    have hplain := isPlain_of_meansStructure hprintable hstructure h
    refine Eq.trans ?_ (plain_written hclear hplain hbreak)
    obtain ⟨c, more, rfl, -⟩ := h.first
    have hindicator : isLeadingIndicator c = false := by
      simp only [isPlain, Bool.and_eq_true, Bool.not_eq_true'] at hplain
      exact hplain.1.1.1.1
    rw [List.cons_append, scalar]
    all_goals
      rintro _ ⟨⟩
      exact absurd hindicator (by decide)
  | singleQuoted hline hallowed =>
    obtain ⟨hprintable, hspaces⟩ := Traits.of_allowsSingleQuoted hallowed
    simpa [scalar] using quoted_singleQuoted hline hprintable hspaces h
  | doubleQuoted => simpa [scalar] using quoted_doubleQuoted cs ('\n' :: rest)
  | literal hallowed =>
    simpa [scalar] using literal_written (Traits.of_allowsLiteral hallowed) h hrest

end TextList

end BlocklistWatch.Yaml
