/-!
# Parsers

Reading a value off the beginning of a text. A parser fails without a reason; repetition goes on only
as long as it gets ahead, so that it comes to an end whatever is repeated.

* `Parser.many` and `Parser.sepBy` read several values, `Parser.all` reads them up to the end.
-/

namespace BlocklistWatch.Text

/-- A value at the beginning of a text, and the text after it. -/
abbrev Parser (α : Type) := List Char → Option (α × List Char)

namespace Parser

variable {α β : Type}

def one (kind : Char → Bool) : Parser Char
  | [] => none
  | c :: cs => if kind c then some (c, cs) else none

def exactly : List Char → Parser Unit
  | [], cs => some ((), cs)
  | _ :: _, [] => none
  | l :: ls, c :: cs => if l = c then exactly ls cs else none

def optional (p : Parser α) : Parser (Option α) := fun cs =>
  match p cs with
  | some (a, rest) => some (some a, rest)
  | none => some (none, cs)

def orElse (p q : Parser α) : Parser α := fun cs =>
  (p cs).or (q cs)

def many (p : Parser α) (cs : List Char) : List α × List Char :=
  match p cs with
  | none => ([], cs)
  | some (a, rest) =>
    if _h : rest.length < cs.length then
      let (more, rest) := many p rest
      (a :: more, rest)
    else ([a], rest)
termination_by cs.length

def sepBy (p : Parser α) (between : Parser β) : Parser (List α) := fun cs => do
  let (first, cs) ← p cs
  let next : Parser α := fun cs => do
    let (_, cs) ← between cs
    p cs
  let (more, cs) := many next cs
  return (first :: more, cs)

def all (p : Parser α) (cs : List Char) : Option (List α) :=
  match many p cs with
  | (values, []) => some values
  | (_, _ :: _) => none

end Parser

end BlocklistWatch.Text
