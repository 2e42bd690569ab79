import BlocklistWatch.Text.Parser

/-!
# What parsers read

A text is mostly read where more text follows, so what a parser makes of it is told together with
what it leaves: a value that was written in front of some rest is read, and that rest is left.

* `exactly_append` reads a given text.
* `many_of_some` and `many_of_none` are one round of a repetition, `many_flatMap` is a whole
  repetition over a text that was written value by value.
-/

namespace BlocklistWatch.Text.Parser

variable {α : Type} {p : Parser α} {cs rest : List Char}

theorem exactly_append (letters rest : List Char) :
    exactly letters (letters ++ rest) = some ((), rest) := by
  induction letters with
  | nil => rfl
  | cons l letters ih => exact (if_pos rfl).trans ih

theorem many_of_some {front : List Char} {a : α} (hne : front ≠ [])
    (h : p (front ++ rest) = some (a, rest)) :
    many p (front ++ rest) = (a :: (many p rest).1, (many p rest).2) := by
  have hless : rest.length < (front ++ rest).length := by
    have hfront := List.length_pos_iff.2 hne
    rw [List.length_append]
    omega
  rw [many, h]
  exact dif_pos hless

theorem many_of_none (h : p cs = none) : many p cs = ([], cs) := by
  rw [many, h]

/-- A parser reads one written value after another, where what comes after a value must not continue
it, and stops where it fails. -/
theorem many_flatMap (ends : List Char → Prop) {write : α → List Char} {values : List α}
    (hread : ∀ a ∈ values, ∀ rest, ends rest → p (write a ++ rest) = some (a, rest))
    (hnext : ∀ a ∈ values, ∀ rest, ends (write a ++ rest)) (hsome : ∀ a ∈ values, write a ≠ [])
    (hends : ends rest) (hstop : p rest = none) :
    many p (values.flatMap write ++ rest) = (values, rest) := by
  induction values with
  | nil => exact many_of_none hstop
  | cons a values ih =>
    rw [List.forall_mem_cons] at hread hnext hsome
    have hafter : ends (values.flatMap write ++ rest) := by
      cases values with
      | nil => exact hends
      | cons b values =>
        rw [List.flatMap_cons, List.append_assoc]
        exact hnext.2 b List.mem_cons_self _
    rw [List.flatMap_cons, List.append_assoc, many_of_some hsome.1 (hread.1 _ hafter),
      ih hread.2 hnext.2 hsome.2]

end BlocklistWatch.Text.Parser
