import BlocklistWatch.Proofs.Yaml.Traits
import BlocklistWatch.Proofs.Zone.Stored
import BlocklistWatch.Text.Blank
import BlocklistWatch.Yaml.Sheet

/-!
# Texts on a page

What is on a page after a text has been written, for a text that is not empty and has no blank at
either end. A text with breaks inside takes several lines, of which all but the first are indented.
Whether the page waits for such an indentation, and where the next word begins, is part of its state
and goes along with every step.

* `foldl_hung` writes a text character by character, for both styles that keep its breaks.
* `scalarChars` is a text as it stands in a document, and `Sheet.written_text` says so.
-/

namespace BlocklistWatch.Yaml

/-! ## Pages -/

namespace Sheet

variable (s : Sheet)

@[simp] theorem written_put (c : Char) : (s.put c).written = s.written ++ [c] :=
  List.reverse_cons

@[simp] theorem written_putBreak (c : Char) : (s.putBreak c).written = s.written ++ [c] :=
  List.reverse_cons

@[simp] theorem written_puts (cs : List Char) : (s.puts cs).written = s.written ++ cs := by
  induction cs generalizing s with
  | nil => exact (List.append_nil _).symm
  | cons c cs ih =>
    have hput : s.puts (c :: cs) = (s.put c).puts cs := rfl
    rw [hput, ih, written_put, List.append_assoc, List.singleton_append]

@[simp] theorem indented_puts (cs : List Char) : (s.puts cs).indented = s.indented := by
  induction cs generalizing s with
  | nil => rfl
  | cons c cs ih => exact ih (s.put c)

theorem written_mark (cs : List Char) (apart opens indents : Bool) :
    (s.mark cs apart opens indents).written =
      s.written ++ (if apart && !s.spaced then [' '] else []) ++ cs := by
  have hputs : (s.mark cs apart opens indents).written =
      ((if apart && !s.spaced then s.put ' ' else s).puts cs).written := rfl
  rw [hputs, written_puts]
  split
  · rw [written_put]
  · rw [List.append_nil]

@[simp] theorem indented_mark (cs : List Char) (apart opens indents : Bool) :
    (s.mark cs apart opens indents).indented = (s.indented && indents) := by
  have hputs : (s.mark cs apart opens indents).indented =
      (((if apart && !s.spaced then s.put ' ' else s).puts cs).indented && indents) := rfl
  rw [hputs, indented_puts]
  split <;> rfl

@[simp] theorem written_afterWord : s.afterWord.written = s.written := rfl

variable {s}

theorem written_indentTo_of_not_indented (h : s.indented = false) :
    (s.indentTo 0).written = s.written ++ ['\n'] := by
  have hline : s.indentTo 0 =
      { (s.breakLine.puts (List.replicate (0 - s.breakLine.column) ' ')) with
        spaced := true, indented := true } := by
    simp only [indentTo, h, Bool.not_false, Bool.true_or, if_true]
  rw [hline, Nat.zero_sub]
  exact written_putBreak s '\n'

theorem written_indentTo_of_indented {indent : Nat} (h : s.indented = true) (hcolumn : s.column = 0)
    (hspaced : s.spaced = true ∨ 0 < indent) :
    (s.indentTo indent).written = s.written ++ List.replicate indent ' ' := by
  have hstay : (!s.indented || decide (indent < s.column) ||
      (s.column == indent && !s.spaced)) = false := by
    rw [h, hcolumn]
    rcases hspaced with hspaced | hindent
    · simp [hspaced]
    · simp only [Bool.not_true, Bool.false_or, Bool.or_eq_false_iff, decide_eq_false_iff_not,
        Bool.and_eq_false_iff, beq_eq_false_iff_ne]
      exact ⟨Nat.not_lt_zero _, .inl (by omega)⟩
  have hline : s.indentTo indent =
      { (s.puts (List.replicate (indent - s.column) ' ')) with
        spaced := true, indented := true } := by
    simp only [indentTo, hstay, Bool.false_eq_true, if_false]
  rw [hline, hcolumn]
  exact written_puts s _

end Sheet

/-! ## Lines that hang under a first one -/

/-- What comes in front of a new line: nothing if it is empty. -/
def lineStart (line : List Char) : List Char :=
  if line.head?.all isBreak then [] else [' ', ' ']

/-- A text of several lines, each but the first indented by two columns; `char` writes a character
that is no break. -/
def hung (char : Char → List Char) : List Char → List Char
  | [] => []
  | c :: cs => (if isBreak c then c :: lineStart cs else char c) ++ hung char cs

/-- What stands between a character and the next one that is no break. -/
def afterBreak (before : Char) : List Char :=
  if isBreak before then [' ', ' '] else []

/-- A step that writes a character as one of a hanging text, told whether a break is before it. -/
structure Hangs (step : Sheet → Bool → Char → Sheet × Bool) (char : Char → List Char) (s : Sheet)
    (before c : Char) : Prop where
  onBreak : isBreak c = true →
    step s (isBreak before) c = ({ s.putBreak c with indented := true }, true)
  onOther : isBreak c = false → s.indented = isBreak before →
    (isBreak before = true → s.column = 0) →
      (step s (isBreak before) c).1.written = s.written ++ afterBreak before ++ char c ∧
        (step s (isBreak before) c).1.indented = false ∧ (step s (isBreak before) c).2 = false

/-- Writing a text character by character writes it as hanging lines, if each step does. -/
theorem foldl_hung {step : Sheet → Bool → Char → Sheet × Bool} {char : Char → List Char}
    {allowed : Char → Char → Prop}
    (hstep : ∀ s before c, allowed before c → Hangs step char s before c)
    (s : Sheet) (before : Char) (cs : List Char) (hchain : (before :: cs).IsChain allowed)
    (hindented : s.indented = isBreak before) (hcolumn : isBreak before = true → s.column = 0) :
    let r := cs.foldl (fun state c => step state.1 state.2 c) (s, isBreak before)
    r.1.written = s.written ++ (if isBreak before then lineStart cs else []) ++ hung char cs ∧
      r.1.indented = isBreak (cs.getLastD before) ∧ r.2 = isBreak (cs.getLastD before) := by
  induction cs generalizing s before with
  | nil =>
    refine ⟨?_, hindented, rfl⟩
    have hnone : lineStart [] = [] := rfl
    simp [hnone, hung]
  | cons c cs ih =>
    obtain ⟨hallowed, hrest⟩ := List.isChain_cons_cons.1 hchain
    simp only [List.foldl_cons, List.getLastD_cons]
    cases hc : isBreak c with
    | true =>
      rw [(hstep s before c hallowed).onBreak hc]
      have hstart : lineStart (c :: cs) = [] := if_pos hc
      have hnext := ih { s.putBreak c with indented := true } c hrest (by rw [hc]) fun _ => rfl
      rw [hc] at hnext
      refine ⟨hnext.1.trans ?_, hnext.2⟩
      have hwritten : ({ s.putBreak c with indented := true } : Sheet).written =
          s.written ++ [c] := Sheet.written_putBreak s c
      simp [hwritten, hstart, hung, hc]
    | false =>
      obtain ⟨hwritten, hflag, hbegins⟩ := (hstep s before c hallowed).onOther hc hindented hcolumn
      have hstart : lineStart (c :: cs) = [' ', ' '] := if_neg (by simp [hc])
      have hnext := ih (step s (isBreak before) c).1 c hrest (by rw [hflag, hc]) (by simp [hc])
      rw [hc, ← hbegins] at hnext
      refine ⟨hnext.1.trans ?_, hnext.2⟩
      simp [hwritten, hbegins, hstart, hung, hc, afterBreak]

/-! ## Texts in their style -/

/-- A text that is not empty and has no blank at either end. -/
structure Trimmed (cs : List Char) : Prop where
  first : ∃ c rest, cs = c :: rest ∧ Text.isBlank c = false
  last : ∃ c front, cs = front ++ [c] ∧ Text.isBlank c = false

theorem Trimmed.of_trimBlanks {cs : List Char} (hne : cs ≠ []) (h : Text.trimBlanks cs = cs) :
    Trimmed cs := by
  obtain ⟨first, rest, hfirst⟩ := List.exists_cons_of_ne_nil hne
  obtain ⟨front, last, hlast⟩ := (List.eq_nil_or_concat' cs).resolve_left hne
  have hlength : ∀ ds : List Char, (Text.dropTrailing Text.isBlank ds).length ≤ ds.length :=
    fun ds => (Text.dropTrailing_isPrefix _ ds).length_le
  have hbegins : Text.isBlank first = false := by
    by_contra hblank
    have hdrop : cs.dropWhile Text.isBlank = rest.dropWhile Text.isBlank := by
      rw [hfirst, List.dropWhile_cons_of_pos (by simpa using hblank)]
    have hless := hlength (rest.dropWhile Text.isBlank)
    have hrest := (List.dropWhile_sublist Text.isBlank (l := rest)).length_le
    rw [Text.trimBlanks, hdrop] at h
    rw [h, hfirst, List.length_cons] at hless
    omega
  refine ⟨⟨first, rest, hfirst, hbegins⟩, ⟨last, front, hlast, ?_⟩⟩
  by_contra hblank
  have hkept : cs.dropWhile Text.isBlank = cs := by
    rw [hfirst, List.dropWhile_cons_of_neg (by simp [hbegins])]
  have hdrop : Text.trimBlanks cs = Text.dropTrailing Text.isBlank front := by
    rw [Text.trimBlanks, hkept, hlast]
    exact Text.dropTrailing_append_of_all (by simpa using hblank) front
  have hless := hlength front
  rw [← hdrop, h, hlast, List.length_append, List.length_singleton] at hless
  omega

theorem isBlank_of_isBreak {c : Char} (h : isBreak c = true) : Text.isBlank c = true := by
  simp only [isBreak, Bool.or_eq_true, beq_iff_eq] at h
  rcases h with (((rfl | rfl) | rfl) | rfl) | rfl <;> decide

theorem isBreak_of_not_isBlank {c : Char} (h : Text.isBlank c = false) : isBreak c = false :=
  Bool.eq_false_iff.2 fun hbreak => Bool.false_ne_true (h.symm.trans (isBlank_of_isBreak hbreak))

namespace Trimmed

variable {cs : List Char}

theorem ne_nil (h : Trimmed cs) : cs ≠ [] := by
  obtain ⟨c, rest, rfl, -⟩ := h.first
  exact List.cons_ne_nil c rest

theorem isBreak_getLastD (h : Trimmed cs) (before : Char) :
    isBreak (cs.getLastD before) = false := by
  obtain ⟨c, front, rfl, hc⟩ := h.last
  rw [List.getLastD_concat]
  exact isBreak_of_not_isBlank hc

end Trimmed

def quoteChar (c : Char) : List Char :=
  if c = '\'' then ['\'', '\''] else [c]

/-- A text as it stands in a document. -/
def scalarChars (cs : List Char) : List Char :=
  match ScalarStyle.forText cs with
  | .plain => cs
  | .singleQuoted => '\'' :: hung quoteChar cs ++ ['\'']
  | .doubleQuoted => '"' :: cs.flatMap Sheet.doubleQuotedChar ++ ['"']
  | .literal => ['|', '-', '\n'] ++ lineStart cs ++ hung (fun c => [c]) cs

namespace Sheet

theorem written_afterBreak {s : Sheet} {before : Char} (hindented : s.indented = isBreak before)
    (hcolumn : isBreak before = true → s.column = 0) :
    (if isBreak before then s.indentTo 2 else s).written = s.written ++ afterBreak before := by
  rw [afterBreak]
  split
  · next hbefore =>
    rw [written_indentTo_of_indented (hindented.trans hbefore) (hcolumn hbefore)
      (.inr Nat.two_pos)]
    rfl
  · exact (List.append_nil _).symm

/-- Between single quotes a break stands for itself, if it is none that would be doubled. -/
theorem singleQuotedChar_hangs {s : Sheet} {before c : Char}
    (hallowed : c ≠ '\n' ∧ ¬ (isBreak before = true ∧ c = ' ')) :
    Hangs (singleQuotedChar 2) quoteChar s before c := by
  obtain ⟨hline, hspace⟩ := hallowed
  constructor
  · intro hc
    have hne : c ≠ ' ' := by
      rintro rfl
      exact absurd hc (by decide)
    simp [singleQuotedChar, hne, hc, hline]
  · intro hc hindented hcolumn
    by_cases hblank : c = ' '
    · subst hblank
      have hwithin : isBreak before = false := by simpa using hspace
      rw [hwithin] at hindented ⊢
      exact ⟨by simp [singleQuotedChar, quoteChar, afterBreak, hwithin], hindented, rfl⟩
    · have hstep : singleQuotedChar 2 s (isBreak before) c =
          ({ ((if c = '\'' then (if isBreak before then s.indentTo 2 else s).put '\''
            else if isBreak before then s.indentTo 2 else s).put c) with indented := false },
            false) := by
        simp only [singleQuotedChar, if_neg hblank, hc, Bool.false_eq_true, if_false]
      have hfront := written_afterBreak hindented hcolumn
      rw [hstep]
      refine ⟨(written_put _ _).trans ?_, rfl, rfl⟩
      by_cases hquote : c = '\''
      · subst hquote
        rw [if_pos rfl, written_put, hfront, quoteChar, if_pos rfl, List.append_assoc]
        rfl
      · rw [if_neg hquote, hfront, quoteChar, if_neg hquote]

theorem literalChar_hangs (s : Sheet) (before c : Char) :
    Hangs (literalChar 2) (fun c => [c]) s before c := by
  refine ⟨fun hc => if_pos hc, fun hc hindented hcolumn => ?_⟩
  have hstep : literalChar 2 s (isBreak before) c =
      ({ ((if isBreak before then s.indentTo 2 else s).put c) with indented := false }, false) := by
    simp only [literalChar, hc, Bool.false_eq_true, if_false]
  rw [hstep]
  refine ⟨(written_put _ _).trans ?_, rfl, rfl⟩
  rw [written_afterBreak hindented hcolumn]

variable {s : Sheet} {cs : List Char}

theorem written_plain (hs : s.spaced = false) (hne : cs ≠ []) :
    (s.plain cs).written = s.written ++ ' ' :: cs := by
  have hword : s.plain cs = ((s.put ' ').puts cs).afterWord := by
    simp [plain, hs, hne]
  rw [hword, written_afterWord, written_puts, written_put, List.append_assoc]
  rfl

theorem written_doubleQuoted (hs : s.spaced = false) :
    (s.doubleQuoted cs).written =
      s.written ++ ' ' :: ('"' :: cs.flatMap doubleQuotedChar ++ ['"']) := by
  simp [doubleQuoted, written_mark, hs]

/-- The text after an opening quote, where no break has a space beside it. -/
theorem isChain_of_spaceAtBreak (hline : '\n' ∉ cs) (hspaces : Traits.spaceAtBreak cs = false) :
    ('\'' :: cs).IsChain fun before c => c ≠ '\n' ∧ ¬ (isBreak before = true ∧ c = ' ') := by
  suffices h : ∀ before, Traits.spaceAtBreak (before :: cs) = false → (before :: cs).IsChain
      fun before c => c ≠ '\n' ∧ ¬ (isBreak before = true ∧ c = ' ') by
    have hquote : isBreak '\'' = false := by decide
    exact h '\'' (by simp [Traits.spaceAtBreak, hspaces, hquote])
  clear hspaces
  intro before hspaces
  induction cs generalizing before with
  | nil => exact .singleton _
  | cons c cs ih =>
    rw [List.mem_cons, not_or] at hline
    rw [Traits.spaceAtBreak, List.head?_cons, Option.any_some, Bool.or_eq_false_iff,
      Bool.or_eq_false_iff] at hspaces
    obtain ⟨⟨hspace, -⟩, hrest⟩ := hspaces
    exact List.isChain_cons_cons.2 ⟨⟨Ne.symm hline.1, by simpa using hspace⟩, ih hline.2 c hrest⟩

theorem written_singleQuoted (hs : s.spaced = false)
    (hchain : ('\'' :: cs).IsChain fun before c => c ≠ '\n' ∧ ¬ (isBreak before = true ∧ c = ' '))
    (hlast : isBreak (cs.getLastD '\'') = false) :
    (s.singleQuoted 2 cs).written =
      s.written ++ ' ' :: ('\'' :: hung quoteChar cs ++ ['\'']) := by
  have hopen : isBreak '\'' = false := by decide
  obtain ⟨hwritten, -, hbroken⟩ := foldl_hung (fun _ _ _ => singleQuotedChar_hangs)
    (s.mark ['\''] true false false) '\'' cs hchain (by simp [hopen]) (by simp [hopen])
  rw [hlast] at hbroken
  simp only [hopen] at hwritten hbroken
  have hclose : (s.singleQuoted 2 cs).written = ((cs.foldl (fun state c =>
      singleQuotedChar 2 state.1 state.2 c) (s.mark ['\''] true false false, false)).1.mark
        ['\''] false false false).written := by
    simp only [singleQuoted, written_afterWord]
    rw [hbroken]
    rfl
  rw [hclose, written_mark, hwritten, written_mark, hs]
  simp

theorem written_literal (hs : s.spaced = false) (h : Trimmed cs) :
    (s.literal 2 cs).written =
        s.written ++ ' ' :: (['|', '-', '\n'] ++ lineStart cs ++ hung (fun c => [c]) cs) ∧
      (s.literal 2 cs).indented = false := by
  have hline : isBreak '\n' = true := by decide
  let opened : Sheet :=
    { ((s.mark ['|'] true false false).mark ['-'] false false false).breakLine with
      spaced := true, indented := true }
  have hopened : opened.written = s.written ++ [' ', '|', '-', '\n'] := by
    refine (written_putBreak _ _).trans ?_
    rw [written_mark, written_mark, hs]
    simp
  have hfold : s.literal 2 cs =
      (cs.foldl (fun state c => literalChar 2 state.1 state.2 c) (opened, true)).1 := by
    obtain ⟨c, rest, hfirst, hbegins⟩ := h.first
    have hhint : ¬ (c = ' ' ∨ isBreak c = true) := by
      rw [isBreak_of_not_isBlank hbegins]
      rintro (rfl | hbreak)
      · exact absurd hbegins (by decide)
      · exact Bool.false_ne_true hbreak
    have hchomping : chomping cs = ['-'] := by
      obtain ⟨d, front, hlast, hends⟩ := h.last
      simp [chomping, hlast, isBreak_of_not_isBlank hends]
    simp only [literal, hchomping]
    rw [hfirst]
    simp only [if_neg hhint]
    rfl
  have hallowed : ('\n' :: cs).IsChain fun _ _ => True :=
    List.isChain_iff_getElem.2 fun _ _ => trivial
  obtain ⟨hwritten, hindented, -⟩ := foldl_hung (fun s before c _ => literalChar_hangs s before c)
    opened '\n' cs hallowed rfl fun _ => rfl
  rw [hfold]
  refine ⟨hwritten.trans ?_, hindented.trans (h.isBreak_getLastD '\n')⟩
  simp [hopened, hline]

/-- A text stands in its style after a space. -/
theorem written_text (hs : s.spaced = false) (h : Trimmed cs) :
    (s.text (ScalarStyle.forText cs) 2 cs).written = s.written ++ ' ' :: scalarChars cs ∧
      (s.text (ScalarStyle.forText cs) 2 cs).indented = false := by
  rw [scalarChars]
  have hchosen := ScalarStyle.chosen_forText cs
  generalize ScalarStyle.forText cs = style at hchosen
  cases hchosen with
  | plain => exact ⟨written_plain hs h.ne_nil, rfl⟩
  | singleQuoted hline hallowed =>
    have hspaces := (Traits.of_allowsSingleQuoted hallowed).2
    refine ⟨?_, rfl⟩
    exact written_singleQuoted hs (isChain_of_spaceAtBreak hline hspaces) (h.isBreak_getLastD _)
  | doubleQuoted => exact ⟨written_doubleQuoted hs, rfl⟩
  | literal => exact written_literal hs h

end Sheet

end BlocklistWatch.Yaml
