/-!
# Strictly increasing lists of names

Names in increasing order by code point, each at most once.

* `insertName` puts a name into its place; `mem_insertName` says which names are there afterwards
  and `pairwise_insertName` that the order is kept.
* `sortNames` puts any list of names in order and drops repetitions; `sortNames_of_pairwise` says
  that it leaves a list alone that is in order.
-/

namespace BlocklistWatch.Text

/-- The list with the name in its place; nothing changes if it is there already. -/
def insertName (x : String) : List String → List String
  | [] => [x]
  | y :: ys =>
    if x < y then x :: y :: ys
    else if x = y then y :: ys
    else y :: insertName x ys

def sortNames (xs : List String) : List String :=
  xs.foldr insertName []

@[simp] theorem mem_insertName {x y : String} {ys : List String} :
    y ∈ insertName x ys ↔ y = x ∨ y ∈ ys := by
  induction ys with
  | nil => simp [insertName]
  | cons z zs ih =>
    rw [insertName]
    split
    · simp
    · split
      · next h => subst h; simp
      · simp only [List.mem_cons, ih]
        constructor
        · rintro (h | h | h) <;> simp [h]
        · rintro (h | h | h) <;> simp [h]

theorem lt_of_not_lt_of_ne {x y : String} (h : ¬ x < y) (hne : x ≠ y) : y < x := by
  by_cases hyx : y < x
  · exact hyx
  · exact absurd (String.le_antisymm (String.not_lt.1 hyx) (String.not_lt.1 h)) hne

theorem pairwise_insertName {x : String} {ys : List String} (h : ys.Pairwise (· < ·)) :
    (insertName x ys).Pairwise (· < ·) := by
  induction ys with
  | nil => simp [insertName]
  | cons y ys ih =>
    rw [insertName]
    split
    · next hxy =>
      refine List.pairwise_cons.2 ⟨fun z hz => ?_, h⟩
      rcases List.mem_cons.1 hz with rfl | hz
      · exact hxy
      · exact String.lt_trans hxy ((List.pairwise_cons.1 h).1 z hz)
    · split
      · exact h
      · next h₁ h₂ =>
        refine List.pairwise_cons.2 ⟨fun z hz => ?_, ih (List.pairwise_cons.1 h).2⟩
        rcases mem_insertName.1 hz with rfl | hz
        · exact lt_of_not_lt_of_ne h₁ h₂
        · exact (List.pairwise_cons.1 h).1 z hz

@[simp] theorem mem_sortNames {x : String} {xs : List String} : x ∈ sortNames xs ↔ x ∈ xs := by
  induction xs with
  | nil => simp [sortNames]
  | cons y ys ih =>
    have : sortNames (y :: ys) = insertName y (sortNames ys) := rfl
    rw [this, mem_insertName, ih, List.mem_cons]

theorem pairwise_sortNames (xs : List String) : (sortNames xs).Pairwise (· < ·) := by
  induction xs with
  | nil => exact List.Pairwise.nil
  | cons y ys ih => exact pairwise_insertName ih

theorem nodup_sortNames (xs : List String) : (sortNames xs).Nodup :=
  (pairwise_sortNames xs).imp String.ne_of_lt

theorem insertName_of_lt {x : String} {ys : List String} (h : ∀ y ∈ ys, x < y) :
    insertName x ys = x :: ys := by
  cases ys with
  | nil => rfl
  | cons y ys => exact if_pos (h y List.mem_cons_self)

theorem sortNames_of_pairwise {xs : List String} (h : xs.Pairwise (· < ·)) : sortNames xs = xs := by
  induction xs with
  | nil => rfl
  | cons x xs ih =>
    obtain ⟨hx, hxs⟩ := List.pairwise_cons.1 h
    have hcons : sortNames (x :: xs) = insertName x (sortNames xs) := rfl
    rw [hcons, ih hxs, insertName_of_lt hx]

end BlocklistWatch.Text
