import BlocklistWatch.Text.Pieces

/-!
# Pieces of a text and of its parts

Cutting a text that is put together at a separator gives the pieces of both parts, and so a text
ends in a separator and another text just if its pieces end in those of the other.

* `cutAt_append` and `joinWith_append` take a text apart at a separator.
* `suffix_iff_cutAt` is the comparison of the ends.
-/

namespace BlocklistWatch.Text

theorem cutAt_append (sep : Char) (front back : List Char) :
    cutAt sep (front ++ sep :: back) = cutAt sep front ++ cutAt sep back := by
  induction front with
  | nil =>
    have hempty : cutAt sep [] = [[]] := rfl
    rw [List.nil_append, hempty, cutAt, if_pos rfl, List.singleton_append]
  | cons c front ih =>
    rw [List.cons_append, cutAt, cutAt, ih]
    by_cases hsep : c = sep
    · rw [if_pos hsep, if_pos hsep, List.cons_append]
    · rw [if_neg hsep, if_neg hsep]
      obtain ⟨piece, pieces, hpieces⟩ := List.exists_cons_of_ne_nil (cutAt_ne_nil sep front)
      rw [hpieces]
      rfl

theorem cutAt_inj {sep : Char} {cs ds : List Char} (h : cutAt sep cs = cutAt sep ds) : cs = ds := by
  rw [← joinWith_cutAt sep cs, h, joinWith_cutAt]

theorem joinWith_append (sep : Char) {ps qs : List (List Char)} (hps : ps ≠ []) (hqs : qs ≠ []) :
    joinWith sep (ps ++ qs) = joinWith sep ps ++ sep :: joinWith sep qs := by
  induction ps with
  | nil => exact absurd rfl hps
  | cons p ps ih =>
    obtain ⟨q, rest, rfl⟩ := List.exists_cons_of_ne_nil hqs
    cases ps with
    | nil => rfl
    | cons p' ps =>
      have hrest := ih (List.cons_ne_nil p' ps)
      rw [List.cons_append] at hrest
      rw [List.cons_append, List.cons_append, joinWith, hrest, joinWith, List.append_assoc,
        List.cons_append]

/-- A text ends in the separator and another text just if the pieces of that text are the last of
its own pieces, but not all of them. -/
theorem suffix_iff_cutAt {sep : Char} {above cs : List Char} :
    (sep :: above) <:+ cs ↔
      cutAt sep above <:+ cutAt sep cs ∧ cutAt sep above ≠ cutAt sep cs := by
  constructor
  · rintro ⟨front, rfl⟩
    rw [cutAt_append]
    refine ⟨List.suffix_append _ _, fun hsame => cutAt_ne_nil sep front ?_⟩
    exact List.self_eq_append_left.1 hsame
  · rintro ⟨⟨front, hfront⟩, hdiffer⟩
    have hne : front ≠ [] := by
      rintro rfl
      exact hdiffer hfront
    refine ⟨joinWith sep front, ?_⟩
    rw [← joinWith_cutAt sep cs, ← hfront, joinWith_append sep hne (cutAt_ne_nil sep above),
      joinWith_cutAt]

end BlocklistWatch.Text
