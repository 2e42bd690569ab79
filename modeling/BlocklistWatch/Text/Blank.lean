/-!
# Blank characters

The characters that count as white space in names, addresses and settings, and cutting them off
the ends of a text.

* `isBlank` is the Unicode property White_Space.
* `trim` removes every leading and every trailing blank and nothing else.
-/

namespace BlocklistWatch.Text

/-- The Unicode property White_Space. -/
def isBlank (c : Char) : Bool :=
  let n := c.toNat
  (9 ≤ n && n ≤ 13) || n == 0x20 || n == 0x85 || n == 0xA0 || n == 0x1680 ||
    (0x2000 ≤ n && n ≤ 0x200A) || n == 0x2028 || n == 0x2029 || n == 0x202F || n == 0x205F ||
    n == 0x3000

/-! ## Cutting at the ends -/

/-- The text without its longest tail of characters that satisfy `p`. -/
def dropTrailing (p : Char → Bool) : List Char → List Char
  | [] => []
  | c :: cs =>
    match dropTrailing p cs with
    | [] => if p c then [] else [c]
    | kept => c :: kept

def trimBlanks (cs : List Char) : List Char :=
  dropTrailing isBlank (cs.dropWhile isBlank)

def trim (s : String) : String :=
  String.ofList (trimBlanks s.toList)

def dropTrailingDots (s : String) : String :=
  String.ofList (dropTrailing (· == '.') s.toList)

@[simp] theorem toList_trim (s : String) : (trim s).toList = trimBlanks s.toList := by
  simp [trim]

@[simp] theorem dropTrailing_nil (p : Char → Bool) : dropTrailing p [] = [] := rfl

theorem dropTrailing_append_of_all {p : Char → Bool} {tail : List Char}
    (h : ∀ c ∈ tail, p c = true) (cs : List Char) :
    dropTrailing p (cs ++ tail) = dropTrailing p cs := by
  induction cs with
  | nil =>
    induction tail with
    | nil => rfl
    | cons c tail ih =>
      have hc : p c = true := h c (by simp)
      have ht := ih (fun d hd => h d (by simp [hd]))
      simp only [List.nil_append, dropTrailing_nil] at ht ⊢
      simp [dropTrailing, ht, hc]
  | cons c cs ih => rw [List.cons_append, dropTrailing, ih, dropTrailing]

end BlocklistWatch.Text
