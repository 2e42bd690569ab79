/-!
# Texts in pieces

Cutting a text at every occurrence of a separator, and putting the pieces together again.

* `joinWith_cutAt` says that joining undoes cutting.
* `cutAt_joinWith` says that cutting undoes joining, for pieces without the separator.
-/

namespace BlocklistWatch.Text

/-- The pieces between the separators; one more piece than there are separators. -/
def cutAt (sep : Char) : List Char → List (List Char)
  | [] => [[]]
  | c :: cs =>
    if c = sep then [] :: cutAt sep cs
    else
      match cutAt sep cs with
      | [] => [[c]]
      | p :: ps => (c :: p) :: ps

def joinWith (sep : Char) : List (List Char) → List Char
  | [] => []
  | [p] => p
  | p :: q :: ps => p ++ sep :: joinWith sep (q :: ps)

def pieces (sep : Char) (s : String) : List String :=
  (cutAt sep s.toList).map String.ofList

def join (sep : Char) (parts : List String) : String :=
  String.ofList (joinWith sep (parts.map String.toList))

/-! ## Cutting and joining undo each other -/

theorem cutAt_ne_nil (sep : Char) (cs : List Char) : cutAt sep cs ≠ [] := by
  cases cs with
  | nil => simp [cutAt]
  | cons c cs =>
    rw [cutAt]
    split
    · simp
    · split <;> simp

theorem joinWith_cons_head (sep c : Char) (p : List Char) (ps : List (List Char)) :
    joinWith sep ((c :: p) :: ps) = c :: joinWith sep (p :: ps) := by
  cases ps <;> rfl

/-- Joining the pieces of a text gives the text back. -/
theorem joinWith_cutAt (sep : Char) (cs : List Char) : joinWith sep (cutAt sep cs) = cs := by
  induction cs with
  | nil => rfl
  | cons c cs ih =>
    rw [cutAt]
    split
    · next h =>
      subst h
      cases hp : cutAt c cs with
      | nil => exact absurd hp (cutAt_ne_nil c cs)
      | cons p ps => rw [hp] at ih; simp [joinWith, ih]
    · split
      · next hp => exact absurd hp (cutAt_ne_nil sep cs)
      · next p ps hp => rw [joinWith_cons_head, ← hp, ih]

theorem cutAt_of_not_mem {sep : Char} {p : List Char} (h : sep ∉ p) : cutAt sep p = [p] := by
  induction p with
  | nil => rfl
  | cons c p ih =>
    simp only [List.mem_cons, not_or] at h
    rw [cutAt, if_neg (Ne.symm h.1), ih h.2]

theorem cutAt_append_sep {sep : Char} {p : List Char} (h : sep ∉ p) (rest : List Char) :
    cutAt sep (p ++ sep :: rest) = p :: cutAt sep rest := by
  induction p with
  | nil => simp [cutAt]
  | cons c p ih =>
    simp only [List.mem_cons, not_or] at h
    rw [List.cons_append, cutAt, if_neg (Ne.symm h.1), ih h.2]

theorem cutAt_joinWith {sep : Char} {ps : List (List Char)} (hne : ps ≠ [])
    (h : ∀ p ∈ ps, sep ∉ p) : cutAt sep (joinWith sep ps) = ps := by
  induction ps with
  | nil => exact absurd rfl hne
  | cons p ps ih =>
    cases ps with
    | nil => exact cutAt_of_not_mem (h p (by simp))
    | cons q ps =>
      rw [joinWith, cutAt_append_sep (h p (by simp)),
        ih (by simp) (fun r hr => h r (List.mem_cons_of_mem p hr))]

theorem not_mem_of_mem_cutAt {sep : Char} {cs p : List Char} (hp : p ∈ cutAt sep cs) :
    sep ∉ p := by
  induction cs generalizing p with
  | nil => simp [cutAt] at hp; simp [hp]
  | cons c cs ih =>
    rw [cutAt] at hp
    split at hp
    · rcases List.mem_cons.1 hp with rfl | hp
      · simp
      · exact ih hp
    · next hc =>
      split at hp
      · next he => exact absurd he (cutAt_ne_nil sep cs)
      · next q qs hq =>
        rcases List.mem_cons.1 hp with rfl | hp
        · have := ih (p := q) (by simp [hq])
          simp [this, Ne.symm hc]
        · exact ih (by simp [hq, hp])

end BlocklistWatch.Text
