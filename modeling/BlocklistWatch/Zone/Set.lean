import BlocklistWatch.Text.Blank
import BlocklistWatch.Text.Pieces
import BlocklistWatch.Text.Sorted

/-!
# Sets of zones

A set of zone names, kept as a strictly increasing list, so that equal sets are equal values and
have one stored text. Stored, a set is its names with commas between them.

* `ZoneSet.insert`, `ZoneSet.ofList` and `ZoneSet.difference` build sets; `x ∈ s` is membership.
* `ZoneSet.stored` writes the stored text and `ZoneSet.ofStored` reads one, dropping blank entries.
-/

namespace BlocklistWatch

/-- A set of zone names in increasing order. -/
structure ZoneSet where
  toList : List String
  increasing : toList.Pairwise (· < ·)
deriving DecidableEq

namespace ZoneSet

def empty : ZoneSet :=
  ⟨[], List.Pairwise.nil⟩

instance : Inhabited ZoneSet := ⟨empty⟩

instance : Membership String ZoneSet where
  mem s x := x ∈ s.toList

instance (x : String) (s : ZoneSet) : Decidable (x ∈ s) :=
  inferInstanceAs (Decidable (x ∈ s.toList))

def insert (s : ZoneSet) (x : String) : ZoneSet :=
  ⟨Text.insertName x s.toList, Text.pairwise_insertName s.increasing⟩

def ofList (xs : List String) : ZoneSet :=
  ⟨Text.sortNames xs, Text.pairwise_sortNames xs⟩

def isEmpty (s : ZoneSet) : Bool :=
  s.toList.isEmpty

def size (s : ZoneSet) : Nat :=
  s.toList.length

def difference (s t : ZoneSet) : List String :=
  s.toList.filter (· ∉ t)

/-- The stored text: the members in increasing order with commas between them. -/
def stored (s : ZoneSet) : String :=
  Text.join ',' s.toList

/-- The set that a stored text denotes: its entries without blanks at their ends, the empty ones
dropped. -/
def ofStored (text : String) : ZoneSet :=
  ofList (((Text.cutAt ',' text.toList).map Text.trimBlanks).filter (· ≠ []) |>.map String.ofList)

@[simp] theorem mem_toList {x : String} {s : ZoneSet} : x ∈ s.toList ↔ x ∈ s := Iff.rfl

@[simp] theorem not_mem_empty (x : String) : x ∉ empty := List.not_mem_nil

@[simp] theorem mem_insert {x y : String} {s : ZoneSet} : y ∈ s.insert x ↔ y = x ∨ y ∈ s :=
  Text.mem_insertName

@[simp] theorem mem_ofList {x : String} {xs : List String} : x ∈ ofList xs ↔ x ∈ xs :=
  Text.mem_sortNames

@[simp] theorem mem_difference {x : String} {s t : ZoneSet} :
    x ∈ s.difference t ↔ x ∈ s ∧ x ∉ t := by
  simp [difference]

end ZoneSet

end BlocklistWatch
