/-!
# Texts that start or end with another

* `stripSuffix?` takes a given ending off a text, `stripPrefix?` a given beginning.
* `stripSuffix?_eq_some_iff` and `stripPrefix?_eq_some_iff` say that what is left, put together with
  what was taken off, is the whole text.
-/

namespace BlocklistWatch.Text

def stripSuffix? (ending cs : List Char) : Option (List Char) :=
  if ending.isSuffixOf cs then some (cs.take (cs.length - ending.length)) else none

def stripPrefix? : (beginning cs : List Char) → Option (List Char)
  | [], cs => some cs
  | _ :: _, [] => none
  | b :: bs, c :: cs => if b = c then stripPrefix? bs cs else none

theorem stripSuffix?_eq_some_iff {ending cs front : List Char} :
    stripSuffix? ending cs = some front ↔ cs = front ++ ending := by
  unfold stripSuffix?
  constructor
  · intro h
    split at h
    · next hs =>
      obtain ⟨t, rfl⟩ := List.isSuffixOf_iff_suffix.1 hs
      simp at h
      rw [← h]
    · simp at h
  · rintro rfl
    rw [if_pos (List.isSuffixOf_iff_suffix.2 ⟨front, rfl⟩)]
    simp

theorem stripPrefix?_eq_some_iff {beginning cs rest : List Char} :
    stripPrefix? beginning cs = some rest ↔ cs = beginning ++ rest := by
  induction beginning generalizing cs with
  | nil => simp [stripPrefix?]
  | cons b bs ih =>
    cases cs with
    | nil => simp [stripPrefix?]
    | cons c cs =>
      rw [stripPrefix?]
      split
      · next h => subst h; simp [ih]
      · next h =>
        simp only [reduceCtorEq, List.cons_append, List.cons.injEq, false_iff, not_and]
        exact fun he => absurd he.symm h

end BlocklistWatch.Text
