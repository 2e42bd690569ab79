import BlocklistWatch.Proofs.Yaml.ReadText
import BlocklistWatch.Yaml.Document

/-!
# Documents that hold a list of texts

A document with a single name and a list of texts under it is read back as that list. Comment lines
in front of it make no difference to what is read, as long as they are lines: a comment with a break
inside would go on as a part of the document. Only a comment can bring in a character that must not
stand in a stream, since in a text such a character is written by its number.

* `toList_render_strings` is such a document character by character.
* `TextList.eq_of_commented_eq`: there is at most one way to take a number of comment lines off.
* `TextList.isReadable_scalarChars`: a text is written in characters that can stand in a stream.
* `TextList.read?_commented` reads a document with comment lines in front of it.
-/

namespace BlocklistWatch.Yaml

open Json (Value)

/-! ## What is written -/

section Writing

variable {s : Sheet}

/-- An element of a list without the end of its line. -/
def itemChars (text : List Char) : List Char :=
  '-' :: ' ' :: scalarChars text

theorem written_item (hs : s.indented = false) {text : String} (h : Trimmed text.toList) :
    let marked := (s.indentTo 0).mark ['-'] true false true
    (write (.item 0) marked (.string text)).written = s.written ++ '\n' :: itemChars text.toList ∧
      (write (.item 0) marked (.string text)).indented = false := by
  intro marked
  have hspaced : (s.indentTo 0).spaced = true := rfl
  have hmarked : marked.written = s.written ++ ['\n', '-'] := by
    rw [Sheet.written_mark, Sheet.written_indentTo_of_not_indented hs, hspaced]
    simp
  obtain ⟨hwritten, hindented⟩ := Sheet.written_text (s := marked) rfl h
  rw [hmarked] at hwritten
  rw [write]
  refine ⟨hwritten.trans ?_, hindented⟩
  rw [itemChars, List.append_assoc]
  rfl

theorem written_items (hs : s.indented = false) {texts : List String}
    (h : ∀ text ∈ texts, Trimmed text.toList) :
    (writeItems 0 s (texts.map .string)).written =
        s.written ++ texts.flatMap (fun text => '\n' :: itemChars text.toList) ∧
      (writeItems 0 s (texts.map .string)).indented = false := by
  induction texts generalizing s with
  | nil => exact ⟨(List.append_nil _).symm, hs⟩
  | cons text texts ih =>
    rw [List.forall_mem_cons] at h
    obtain ⟨hwritten, hindented⟩ := written_item hs h.1
    obtain ⟨hrest, hflag⟩ := ih hindented h.2
    rw [List.map_cons, writeItems]
    refine ⟨hrest.trans ?_, hflag⟩
    rw [hwritten, List.append_assoc, List.flatMap_cons]

theorem flatMap_lines {α : Type} (line : α → List Char) (xs : List α) :
    xs.flatMap (fun x => '\n' :: line x) ++ ['\n'] =
      '\n' :: xs.flatMap fun x => line x ++ ['\n'] := by
  induction xs with
  | nil => rfl
  | cons x xs ih =>
    rw [List.flatMap_cons, List.flatMap_cons, List.append_assoc, ih]
    simp

/-- The name of a list and the colon after it, at the beginning of a document. -/
theorem written_name {name : String} (hname : ScalarStyle.forText name.toList = .plain)
    (hsimple : isSimpleName name = true) (v : Value) :
    ∃ s : Sheet, write .root .blank (.object [(name, v)]) = write (.member 0) s v ∧
      s.written = name.toList ++ [':'] ∧ s.spaced = false ∧ s.indented = false := by
  refine ⟨(Sheet.blank.plain name.toList).mark [':'] false false false, ?_, ?_, rfl, ?_⟩
  · rw [write, writeMembers, writeMembers, hname, if_pos hsimple]
    rfl
  · have hword : Sheet.blank.plain name.toList = (Sheet.blank.puts name.toList).afterWord := rfl
    rw [Sheet.written_mark, hword, Sheet.written_afterWord, Sheet.written_puts]
    simp [Sheet.blank, Sheet.written]
  · rw [Sheet.indented_mark, Bool.and_false]

/-- The document of a list of texts under a name that needs no quotes: a line for each text, or
brackets if there is none. -/
theorem toList_render_strings {name : String} (hname : ScalarStyle.forText name.toList = .plain)
    (hsimple : isSimpleName name = true) {texts : List String}
    (h : ∀ text ∈ texts, Trimmed text.toList) :
    (render (.object [(name, .strings texts)])).toList = name.toList ++ ':' ::
      (if texts = [] then " []\n".toList
        else '\n' :: texts.flatMap fun text => itemChars text.toList ++ ['\n']) := by
  obtain ⟨s, hwrite, hwritten, hspaced, hindented⟩ := written_name hname hsimple (.strings texts)
  rw [render, String.toList_ofList, hwrite]
  cases texts with
  | nil =>
    rw [Value.strings, List.map_nil, write,
      Sheet.written_indentTo_of_not_indented (by simp [hindented]), Sheet.written_mark,
      Sheet.written_mark, hwritten, hspaced]
    simp
  | cons text texts =>
    obtain ⟨hitems, hflag⟩ := written_items hindented h
    have hlist : write (.member 0) s (.strings (text :: texts)) =
        writeItems 0 s ((text :: texts).map .string) := by
      rw [Value.strings, List.map_cons, write, Place.listIndent, hindented]
      rfl
    rw [hlist, Sheet.written_indentTo_of_not_indented hflag, hitems, hwritten, if_neg (by simp),
      List.append_assoc, flatMap_lines, List.append_assoc]
    rfl

end Writing

/-! ## What is read -/

namespace TextList

open Text (Parser)

theorem item_written {cs rest : List Char} (h : Trimmed cs) (hrest : EndsItem rest) :
    item (itemChars cs ++ ['\n'] ++ rest) = some (cs, rest) := by
  have hexact := Parser.exactly_append ['-', ' '] (scalarChars cs ++ '\n' :: rest)
  simp only [List.cons_append, List.nil_append] at hexact
  simp only [item, itemChars, List.cons_append, List.append_assoc, List.nil_append, hexact,
    scalar_written h hrest, Option.bind_eq_bind, Option.bind_some]
  rfl

theorem items?_written {texts : List String} (h : ∀ text ∈ texts, Trimmed text.toList) :
    items? (if texts = [] then " []\n".toList
      else '\n' :: texts.flatMap fun text => itemChars text.toList ++ ['\n']) =
      some (texts.map String.toList) := by
  by_cases hnone : texts = []
  · rw [if_pos hnone, hnone]
    rfl
  · have hmany : Parser.many item ((texts.map String.toList).flatMap
        (fun cs => itemChars cs ++ ['\n']) ++ []) = (texts.map String.toList, []) := by
      refine Parser.many_flatMap EndsItem ?_ (fun _ _ _ => .inr rfl)
        (fun _ _ => List.cons_ne_nil _ _) (.inl rfl) rfl
      rintro cs hcs rest hrest
      obtain ⟨text, htext, rfl⟩ := List.mem_map.1 hcs
      exact item_written (h text htext) hrest
    rw [List.append_nil, List.flatMap_map] at hmany
    have hlines : Parser.all item (texts.flatMap fun text => itemChars text.toList ++ ['\n']) =
        some (texts.map String.toList) := by
      rw [Parser.all, hmany]
    rw [if_neg hnone]
    have hend : lineEnd ('\n' :: texts.flatMap fun text => itemChars text.toList ++ ['\n']) =
        some ('\n', texts.flatMap fun text => itemChars text.toList ++ ['\n']) := rfl
    simp only [items?, hend, hlines]
    simp [Option.filter, hnone]

/-! ## Comments -/

/-- A text after some comment lines. -/
def commented (lines : List (List Char)) (body : List Char) : List Char :=
  lines.flatMap (fun line => '#' :: line ++ ['\n']) ++ body

theorem commented_cons (line : List Char) (lines : List (List Char)) (body : List Char) :
    commented (line :: lines) body = '#' :: line ++ '\n' :: commented lines body := by
  simp [commented]

theorem many_commentLine {lines : List (List Char)}
    (hlines : ∀ line ∈ lines, ∀ c ∈ line, isBreak c = false) {body : List Char}
    (hbody : commentLine body = none) :
    (Parser.many commentLine (commented lines body)).2 = body := by
  induction lines with
  | nil => rw [commented, List.flatMap_nil, List.nil_append, Parser.many_of_none hbody]
  | cons line lines ih =>
    rw [List.forall_mem_cons] at hlines
    have hline : ∀ c ∈ line, (!isBreak c) = true := by simpa using hlines.1
    have hdrop : (line ++ '\n' :: commented lines body).dropWhile (fun c => !isBreak c) =
        '\n' :: commented lines body := by
      rw [List.dropWhile_append_of_pos hline]
      rfl
    have hfirst : commentLine (('#' :: line ++ ['\n']) ++ commented lines body) =
        some ('\n', commented lines body) := by
      simp only [List.cons_append, List.append_assoc, List.nil_append, commentLine, hdrop]
      rfl
    rw [commented_cons, List.append_cons, Parser.many_of_some (by simp) hfirst]
    exact ih hlines.2

theorem count_commented (lines : List (List Char)) (body : List Char) :
    (commented lines body).count '\n' =
      lines.length + lines.flatten.count '\n' + body.count '\n' := by
  induction lines with
  | nil => simp [commented]
  | cons line lines ih =>
    rw [commented_cons, List.count_append, List.count_cons_of_ne (by decide), List.count_cons_self,
      ih, List.length_cons, List.flatten_cons, List.count_append]
    omega

theorem cutAt_commented {lines : List (List Char)} (h : ∀ line ∈ lines, '\n' ∉ line)
    (body : List Char) :
    Text.cutAt '\n' (commented lines body) =
      lines.map (fun line => '#' :: line) ++ Text.cutAt '\n' body := by
  induction lines with
  | nil => rfl
  | cons line lines ih =>
    rw [List.forall_mem_cons] at h
    have hline : '\n' ∉ '#' :: line := by simpa using h.1
    rw [commented_cons, Text.cutAt_append_sep hline, ih h.2]
    rfl

/-- If one way to begin a text with so many comment lines has no breaks inside the lines, it is the
only one. -/
theorem eq_of_commented_eq {lines others : List (List Char)} {body : List Char}
    (hlines : ∀ line ∈ lines, '\n' ∉ line) (hlength : lines.length = others.length)
    (h : commented others body = commented lines body) : others = lines := by
  have hnone : lines.flatten.count '\n' = 0 :=
    List.count_eq_zero.2 fun hmem => by
      obtain ⟨line, hline, hbreak⟩ := List.mem_flatten.1 hmem
      exact hlines line hline hbreak
  have hcount := congrArg (List.count '\n') h
  rw [count_commented, count_commented] at hcount
  have hothers : ∀ line ∈ others, '\n' ∉ line := fun line hline hbreak =>
    List.count_eq_zero.1 (by omega) (List.mem_flatten.2 ⟨line, hline, hbreak⟩)
  have hcut := congrArg (Text.cutAt '\n') h
  rw [cutAt_commented hothers, cutAt_commented hlines] at hcut
  exact List.map_injective_iff.2 (List.cons_injective) (List.append_cancel_right hcut)

/-! ## Characters -/

theorem isReadable_of_isPrintable {c : Char} (h : isPrintable c = true) : isReadable c = true := by
  simp only [isPrintable, isReadable, Bool.or_eq_true, Bool.and_eq_true, beq_iff_eq, bne_iff_ne,
    decide_eq_true_eq] at h ⊢
  rcases h with (hline | hascii) | hbeyond
  · simp [hline]
  · simp [hascii]
  · simp [hbeyond]

theorem isReadable_hexCapitals {width n : Nat} (h : n < 16 ^ (width + 1)) :
    ∀ c ∈ Sheet.hexCapitals (width + 1) n, isReadable c = true := by
  have hdigit : ∀ n < 16, isReadable (Sheet.hexCapital n) = true := by decide
  induction width generalizing n with
  | zero =>
    have hn : n < 16 := by simpa using h
    rw [Sheet.hexCapitals_one hn, List.forall_mem_singleton]
    exact hdigit n hn
  | succ width ih =>
    have hfront : n / 16 < 16 ^ (width + 1) := by
      rw [Nat.pow_succ] at h
      omega
    rw [Sheet.hexCapitals_succ, List.forall_mem_append, List.forall_mem_singleton]
    exact ⟨ih hfront, hdigit _ (Nat.mod_lt _ (by omega))⟩

theorem isReadable_of_letterChar? {c l : Char} (h : letterChar? l = some c) :
    isReadable l = true := by
  unfold letterChar? at h
  split at h
  case h_16 => exact absurd h (by simp)
  all_goals decide

theorem isReadable_doubleQuotedChar (c : Char) :
    ∀ d ∈ Sheet.doubleQuotedChar c, isReadable d = true := by
  have hslash : isReadable '\\' = true := by decide
  unfold Sheet.doubleQuotedChar
  split
  · next hplain =>
    simp only [Bool.and_eq_true] at hplain
    rw [List.forall_mem_singleton]
    exact isReadable_of_isPrintable hplain.1.1.1
  · cases hletter : Sheet.escapeLetter? c with
    | some l =>
      obtain ⟨hchar, -⟩ := letterChar?_of_escapeLetter? hletter
      rw [List.forall_mem_cons, List.forall_mem_singleton]
      exact ⟨hslash, isReadable_of_letterChar? hchar⟩
    | none =>
      have hvalid : c.toNat < 0xD800 ∨ 0xDFFF < c.toNat ∧ c.toNat < 0x110000 := c.valid
      simp only
      split
      · rw [List.forall_mem_cons, List.forall_mem_cons]
        exact ⟨hslash, by decide, isReadable_hexCapitals (by omega)⟩
      · split
        · rw [List.forall_mem_cons, List.forall_mem_cons]
          exact ⟨hslash, by decide, isReadable_hexCapitals (by omega)⟩
        · rw [List.forall_mem_cons, List.forall_mem_cons]
          exact ⟨hslash, by decide, isReadable_hexCapitals (by omega)⟩

theorem isReadable_lineStart (cs : List Char) : ∀ c ∈ lineStart cs, isReadable c = true := by
  unfold lineStart
  split
  · exact fun c hc => absurd hc (List.not_mem_nil)
  · exact List.all_eq_true.1 (by decide)

theorem isReadable_hung {char : Char → List Char} {cs : List Char}
    (hcs : ∀ c ∈ cs, isPrintable c = true)
    (hchar : ∀ c ∈ cs, ∀ d ∈ char c, isReadable d = true) :
    ∀ c ∈ hung char cs, isReadable c = true := by
  induction cs with
  | nil => exact fun c hc => absurd hc (List.not_mem_nil)
  | cons c cs ih =>
    rw [List.forall_mem_cons] at hcs hchar
    rw [hung, List.forall_mem_append]
    refine ⟨?_, ih hcs.2 hchar.2⟩
    split
    · rw [List.forall_mem_cons]
      exact ⟨isReadable_of_isPrintable hcs.1, isReadable_lineStart cs⟩
    · exact hchar.1

/-- Whatever a text holds, what is written of it can stand in a stream. -/
theorem isReadable_scalarChars (cs : List Char) : ∀ c ∈ scalarChars cs, isReadable c = true := by
  have hsingle : isReadable '\'' = true := by decide
  have hdouble : isReadable '"' = true := by decide
  rw [scalarChars]
  have hchosen := ScalarStyle.chosen_forText cs
  generalize ScalarStyle.forText cs = style at hchosen
  cases hchosen with
  | plain hclear hallowed =>
    intro c hc
    exact isReadable_of_isPrintable ((Traits.of_allowsPlain hallowed).1 c hc)
  | singleQuoted hline hallowed =>
    have hprintable := (Traits.of_allowsSingleQuoted hallowed).1
    rw [List.forall_mem_append, List.forall_mem_cons, List.forall_mem_singleton]
    refine ⟨⟨hsingle, isReadable_hung hprintable fun c hc d hd => ?_⟩, hsingle⟩
    have hsame : d = c := by
      unfold quoteChar at hd
      split at hd
      · next h => simpa [h] using hd
      · simpa using hd
    rw [hsame]
    exact isReadable_of_isPrintable (hprintable c hc)
  | doubleQuoted =>
    rw [List.forall_mem_append, List.forall_mem_cons, List.forall_mem_singleton]
    refine ⟨⟨hdouble, fun d hd => ?_⟩, hdouble⟩
    obtain ⟨c, -, hd⟩ := List.mem_flatMap.1 hd
    exact isReadable_doubleQuotedChar c d hd
  | literal hallowed =>
    have hprintable := Traits.of_allowsLiteral hallowed
    rw [List.forall_mem_append, List.forall_mem_append]
    refine ⟨⟨List.all_eq_true.1 (by decide), isReadable_lineStart cs⟩,
      isReadable_hung hprintable fun c hc => ?_⟩
    rw [List.forall_mem_singleton]
    exact isReadable_of_isPrintable (hprintable c hc)

/-! ## Whole documents -/

variable {name : String} {texts : List String}

theorem isReadable_render (hname : ScalarStyle.forText name.toList = .plain)
    (hsimple : isSimpleName name = true) (h : ∀ text ∈ texts, Trimmed text.toList) :
    ∀ c ∈ (render (.object [(name, .strings texts)])).toList, isReadable c = true := by
  have hplain : ∀ c ∈ name.toList, isReadable c = true := by
    have hchosen := ScalarStyle.chosen_forText name.toList
    rw [hname] at hchosen
    cases hchosen with
    | plain _ hallowed =>
      exact fun c hc => isReadable_of_isPrintable ((Traits.of_allowsPlain hallowed).1 c hc)
  have hbreak : isReadable '\n' = true := by decide
  have hmark : isReadable '-' = true := by decide
  have hspace : isReadable ' ' = true := by decide
  rw [toList_render_strings hname hsimple h, List.forall_mem_append, List.forall_mem_cons]
  refine ⟨hplain, by decide, ?_⟩
  split
  · exact List.all_eq_true.1 (by decide)
  · rw [List.forall_mem_cons]
    refine ⟨hbreak, fun c hc => ?_⟩
    obtain ⟨text, -, hc⟩ := List.mem_flatMap.1 hc
    have hitem : ∀ c ∈ itemChars text.toList ++ ['\n'], isReadable c = true := by
      rw [List.forall_mem_append, List.forall_mem_singleton, itemChars, List.forall_mem_cons,
        List.forall_mem_cons]
      exact ⟨⟨hmark, hspace, isReadable_scalarChars text.toList⟩, hbreak⟩
    exact hitem c hc

theorem isReadable_commented (lines : List (List Char)) {body : List Char}
    (hbody : ∀ c ∈ body, isReadable c = true) :
    (∀ c ∈ commented lines body, isReadable c = true) ↔
      ∀ line ∈ lines, ∀ c ∈ line, isReadable c = true := by
  have hmark : isReadable '#' = true := by decide
  have hbreak : isReadable '\n' = true := by decide
  have hline : ∀ line : List Char, (∀ c ∈ '#' :: line ++ ['\n'], isReadable c = true) ↔
      ∀ c ∈ line, isReadable c = true := by
    intro line
    rw [List.forall_mem_append, List.forall_mem_cons, List.forall_mem_singleton,
      and_iff_left hbreak, and_iff_right hmark]
  rw [commented, List.forall_mem_append, and_iff_left hbody, List.forall_mem_flatMap]
  exact forall₂_congr fun line _ => hline line

/-- A list of trimmed texts is read back as it was written, if the comment lines in front of it hold
what can stand in a stream. -/
theorem read?_commented (hname : ScalarStyle.forText name.toList = .plain)
    (hsimple : isSimpleName name = true) (hmark : name.toList.head? ≠ some '#')
    (h : ∀ text ∈ texts, Trimmed text.toList) {lines : List (List Char)}
    (hlines : ∀ line ∈ lines, ∀ c ∈ line, isBreak c = false) {stream : String}
    (hstream : stream.toList = commented lines (render (.object [(name, .strings texts)])).toList) :
    read? name stream = some texts ↔ ∀ line ∈ lines, ∀ c ∈ line, isReadable c = true := by
  have hreadable := isReadable_commented lines (isReadable_render hname hsimple h)
  rw [← hreadable, ← hstream, ← List.all_eq_true, read?]
  cases hall : stream.toList.all isReadable with
  | false => simp
  | true =>
    have hdocument := toList_render_strings hname hsimple h
    have hbody : commentLine (render (.object [(name, .strings texts)])).toList = none := by
      rw [hdocument]
      cases hchars : name.toList with
      | nil => rfl
      | cons c cs =>
        have hc : c ≠ '#' := fun hc => hmark (by rw [hchars, List.head?_cons, hc])
        rw [List.cons_append, commentLine]
        exact fun _ hsplit => hc (List.cons.inj hsplit).1
    have hexact := Parser.exactly_append (name.toList ++ [':']) (if texts = [] then " []\n".toList
      else '\n' :: texts.flatMap fun text => itemChars text.toList ++ ['\n'])
    have hrest := many_commentLine hlines hbody
    rw [← hstream, hdocument, List.append_cons] at hrest
    simp only [if_true, hrest, hexact, items?_written h, Option.bind_eq_bind, Option.bind_some]
    simp [Function.comp_def]

end TextList

end BlocklistWatch.Yaml
