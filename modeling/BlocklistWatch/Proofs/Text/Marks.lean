import BlocklistWatch.Proofs.Text.Pieces

/-!
# Texts up to a mark

A text that is followed by a mark can be told from what comes after it as long as the mark is not in
the text already. The first character of the mark must not come back in it: an occurrence of the
mark could otherwise begin in the text and end in the mark.

* `append_mark_inj`: two such texts are the same if what they begin is the same.
* `append_sep_inj`: the same for the last occurrence of a separator.
-/

namespace BlocklistWatch.Text

variable {first sep : Char} {tail front back p q x y : List Char}

theorem eq_nil_of_mark_append (hfirst : first ∉ tail) (hfront : ¬ (first :: tail) <:+: front)
    (h : first :: tail ++ x = front ++ (first :: tail ++ y)) : front = [] := by
  cases front with
  | nil => rfl
  | cons c front =>
    refine absurd ?_ hfront
    simp only [List.cons_append, List.cons.injEq] at h
    obtain ⟨rfl, hrest⟩ := h
    rcases List.append_eq_append_iff.1 hrest with ⟨more, rfl, -⟩ | ⟨more, rfl, hmore⟩
    · exact (List.prefix_append (first :: tail) more).isInfix
    · cases more with
      | nil => simp only [List.append_nil, List.infix_rfl]
      | cons d more =>
        obtain ⟨rfl, -⟩ := List.cons.inj hmore
        exact absurd (List.mem_append_right front List.mem_cons_self) hfirst

theorem append_mark_inj (hfirst : first ∉ tail) (hp : ¬ (first :: tail) <:+: p)
    (hq : ¬ (first :: tail) <:+: q) (h : p ++ (first :: tail ++ x) = q ++ (first :: tail ++ y)) :
    p = q ∧ x = y := by
  rcases List.append_eq_append_iff.1 h with ⟨more, rfl, hmore⟩ | ⟨more, rfl, hmore⟩
  · have hnone : more = [] := eq_nil_of_mark_append hfirst
      (fun hin => hq (hin.trans (List.suffix_append p more).isInfix)) hmore
    subst hnone
    exact ⟨(List.append_nil p).symm, List.append_cancel_left hmore⟩
  · have hnone : more = [] := eq_nil_of_mark_append hfirst
      (fun hin => hp (hin.trans (List.suffix_append q more).isInfix)) hmore
    subst hnone
    exact ⟨List.append_nil q, (List.append_cancel_left hmore).symm⟩

theorem append_sep_inj (hp : sep ∉ p) (hq : sep ∉ q) (h : front ++ sep :: p = back ++ sep :: q) :
    front = back ∧ p = q := by
  have hpieces := congrArg (cutAt sep) h
  rw [cutAt_append, cutAt_append, cutAt_of_not_mem hp, cutAt_of_not_mem hq] at hpieces
  obtain ⟨hfront, hlast⟩ := List.append_inj' hpieces rfl
  exact ⟨cutAt_inj hfront, List.singleton_inj.1 hlast⟩

end BlocklistWatch.Text
