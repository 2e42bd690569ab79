import Mathlib.Data.List.Basic
import BlocklistWatch.Yaml.Scalar

/-!
# What the style of a text tells about it

The traits of a text are collected character by character, each with the one before it in view.
Taken one by one they are plain facts about the text: which characters it holds and which of them
stand side by side. A style is chosen by the traits, so a text written in some style has what this
style asks for.

* `Traits.indicator_go`, `Traits.special_go`, `Traits.lineBreak_go` and `Traits.spaceAtBreak_go` are
  the traits of a text.
* `ScalarStyle.chosen_forText` is what a style was chosen for.
* `Traits.of_allowsPlain`, `Traits.of_allowsSingleQuoted` and `Traits.of_allowsLiteral` are what the
  styles ask for.
-/

namespace BlocklistWatch.Yaml

namespace Traits

/-- The traits after one more character. -/
def next (before : Option Char) (t : Traits) (c : Char) (cs : List Char) : Traits where
  indicator := t.indicator || isIndicator before c cs.head?
  special := t.special || !isPrintable c
  lineBreak := t.lineBreak || isBreak c
  leadingBlank := t.leadingBlank || (before.isNone && (c == ' ' || isBreak c))
  trailingSpace := c == ' '
  trailingBreak := isBreak c
  breakSpace := t.breakSpace || (c == ' ' && before.any isBreak)
  spaceBreak := t.spaceBreak || (isBreak c && before == some ' ')

theorem go_cons (before : Option Char) (t : Traits) (c : Char) (cs : List Char) :
    go before t (c :: cs) = go (some c) (next before t c cs) cs := by
  cases before <;> rfl

theorem special_go (before : Option Char) (t : Traits) (cs : List Char) :
    (go before t cs).special = (t.special || cs.any fun c => !isPrintable c) := by
  induction cs generalizing before t with
  | nil => exact (Bool.or_false _).symm
  | cons c cs ih => rw [go_cons, ih, List.any_cons, next, Bool.or_assoc]

theorem lineBreak_go (before : Option Char) (t : Traits) (cs : List Char) :
    (go before t cs).lineBreak = (t.lineBreak || cs.any isBreak) := by
  induction cs generalizing before t with
  | nil => exact (Bool.or_false _).symm
  | cons c cs ih => rw [go_cons, ih, List.any_cons, next, Bool.or_assoc]

/-- Whether a character of the text means structure. -/
def meansStructure (before : Option Char) : List Char → Bool
  | [] => false
  | c :: cs => isIndicator before c cs.head? || meansStructure (some c) cs

theorem indicator_go (before : Option Char) (t : Traits) (cs : List Char) :
    (go before t cs).indicator = (t.indicator || meansStructure before cs) := by
  induction cs generalizing before t with
  | nil => exact (Bool.or_false _).symm
  | cons c cs ih => rw [go_cons, ih, meansStructure, next, Bool.or_assoc]

/-- Whether a break stands right in front of a space, or a space right in front of a break. -/
def spaceAtBreak : List Char → Bool
  | [] => false
  | c :: cs =>
    cs.head?.any (fun d => (isBreak c && d == ' ') || (c == ' ' && isBreak d)) || spaceAtBreak cs

theorem spaceAtBreak_go (before : Option Char) (t : Traits) (cs : List Char) :
    ((go before t cs).breakSpace || (go before t cs).spaceBreak) =
      (t.breakSpace || t.spaceBreak || spaceAtBreak (before.toList ++ cs)) := by
  induction cs generalizing before t with
  | nil => cases before <;> simp [go, spaceAtBreak]
  | cons c cs ih =>
    rw [go_cons, ih, next]
    cases before with
    | none => simp
    | some b =>
      simp [spaceAtBreak]
      grind

end Traits

/-! ## Styles -/

namespace ScalarStyle

variable {cs : List Char}

/-- The style of a text with what it was chosen for. -/
inductive Chosen (cs : List Char) : ScalarStyle → Prop
  | plain : isAmbiguous cs = false → (Traits.of cs).allowsPlain = true → Chosen cs .plain
  | singleQuoted : '\n' ∉ cs → (Traits.of cs).allowsSingleQuoted = true → Chosen cs .singleQuoted
  | doubleQuoted : Chosen cs .doubleQuoted
  | literal : (Traits.of cs).allowsLiteral = true → Chosen cs .literal

theorem chosen_forText (cs : List Char) : Chosen cs (forText cs) := by
  have hquoted : '\n' ∉ cs → Chosen cs
      (if (Traits.of cs).allowsSingleQuoted then .singleQuoted else .doubleQuoted) := by
    intro hline
    split
    · next hallowed => exact .singleQuoted hline hallowed
    · exact .doubleQuoted
  simp only [forText]
  split
  · split
    · next hallowed => exact .literal hallowed
    · exact .doubleQuoted
  · next hcontains =>
    have hline : '\n' ∉ cs := by simpa using hcontains
    split
    · exact hquoted hline
    · next hclear =>
      split
      · next hallowed => exact .plain (Bool.eq_false_iff.2 hclear) hallowed
      · exact hquoted hline

end ScalarStyle

namespace Traits

variable {cs : List Char}

theorem of_allowsPlain (h : (of cs).allowsPlain = true) :
    (∀ c ∈ cs, isPrintable c = true) ∧ (∀ c ∈ cs, isBreak c = false) ∧
      meansStructure none cs = false := by
  simp only [allowsPlain, Bool.not_eq_true', Bool.or_eq_false_iff, of, special_go, lineBreak_go,
    indicator_go] at h
  obtain ⟨⟨⟨⟨⟨-, hstructure⟩, -, hspecial⟩, -, hbreak⟩, -⟩, -⟩ := h
  exact ⟨by simpa using hspecial, by simpa using hbreak, hstructure⟩

theorem of_allowsSingleQuoted (h : (of cs).allowsSingleQuoted = true) :
    (∀ c ∈ cs, isPrintable c = true) ∧ spaceAtBreak cs = false := by
  have hspaces := spaceAtBreak_go none { indicator := beginsLikeMark cs } cs
  simp only [allowsSingleQuoted, Bool.not_eq_true', Bool.or_eq_false_iff, of, special_go] at h
  obtain ⟨⟨hbreakSpace, hspaceBreak⟩, -, hspecial⟩ := h
  rw [hbreakSpace, hspaceBreak] at hspaces
  exact ⟨by simpa using hspecial, hspaces.symm⟩

theorem of_allowsLiteral (h : (of cs).allowsLiteral = true) : ∀ c ∈ cs, isPrintable c = true := by
  simp only [allowsLiteral, Bool.not_eq_true', Bool.or_eq_false_iff, of, special_go] at h
  simpa using h.2.2

end Traits

end BlocklistWatch.Yaml
