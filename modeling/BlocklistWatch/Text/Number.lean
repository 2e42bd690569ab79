import BlocklistWatch.Text.Ascii

/-!
# Numbers in settings

Natural numbers as they are typed: digits, possibly after a plus sign, of a value up to a limit.

* `parseNatural` reads one or says what is wrong, the leftmost fault first.
-/

namespace BlocklistWatch.Text

inductive NumberFault where
  | empty
  | invalidDigit
  | tooLarge
deriving DecidableEq, Repr

def NumberFault.message : NumberFault → String
  | empty => "cannot parse integer from empty string"
  | invalidDigit => "invalid digit found in string"
  | tooLarge => "number too large to fit in target type"

/-- The number of digits that follow those of `n`, at most `max`. -/
def digitsUpTo (max : Nat) (n : Nat) : List Char → Except NumberFault Nat
  | [] => .ok n
  | c :: cs =>
    if ¬ isDigit c then .error .invalidDigit
    else if max < 10 * n + digitValue c then .error .tooLarge
    else digitsUpTo max (10 * n + digitValue c) cs

def parseNatural (max : Nat) (s : String) : Except NumberFault Nat :=
  match s.toList with
  | [] => .error .empty
  | ['+'] => .error .invalidDigit
  | '+' :: cs => digitsUpTo max 0 cs
  | cs => digitsUpTo max 0 cs

end BlocklistWatch.Text
