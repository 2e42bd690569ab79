import BlocklistWatch.Toml.Numeric
import BlocklistWatch.Toml.Tree
import BlocklistWatch.Toml.Written

/-!
# TOML documents

A document line by line, and the table that it denotes.

* `value` reads a value, `line` a line of a document.
* `parse?` is the table of a whole document.
-/

namespace BlocklistWatch.Toml

open Text (Parser)

/-! ## Values -/

/-- The elements of an array, after its bracket; a comma may follow the last one. -/
def arrayItems (item : Parser Value) : Parser Value := fun cs =>
  let spaced : Parser Value := fun cs =>
    (item (skipGaps cs)).map fun (v, cs) => (v, skipGaps cs)
  let closing (items : List Value) (cs : List Char) : Option (Value × List Char) :=
    (Parser.exactly [']'] (skipGaps cs)).map fun (_, cs) => (.array items, cs)
  match Parser.sepBy spaced (Parser.exactly [',']) cs with
  | none => closing [] cs
  | some (items, ',' :: cs) => closing items cs
  | some (items, cs) => closing items cs

def entryOf (parts : List String) (v : Value) : Option Branch.Entry :=
  parts.getLast?.map fun name => (parts.dropLast, name, v)

def keyValue (item : Parser Value) : Parser Branch.Entry := fun cs => do
  let (parts, cs) ← key cs
  let (_, cs) ← Parser.exactly ['='] cs
  let (v, cs) ← item (skipBlanks cs)
  return (← entryOf parts v, cs)

def inlineTable (item : Parser Value) : Parser Value := fun cs => do
  let spaced : Parser Branch.Entry := fun cs =>
    (keyValue item cs).map fun (e, cs) => (e, skipBlanks cs)
  let (entries, cs) ← Parser.optional (Parser.sepBy spaced (Parser.exactly [','])) cs
  let (_, cs) ← Parser.exactly ['\x7d'] (skipBlanks cs)
  let b ← Branch.addEntries [] (entries.getD [])
  return (.table b.closed, cs)

def truth : Parser Value :=
  Parser.orElse
    (fun cs => (Parser.exactly ['t', 'r', 'u', 'e'] cs).map fun (_, cs) => (.bool true, cs))
    (fun cs => (Parser.exactly ['f', 'a', 'l', 's', 'e'] cs).map fun (_, cs) => (.bool false, cs))

def scalar : Parser Value :=
  Parser.orElse (fun cs => (stringText cs).map fun (s, cs) => (.string s, cs))
    (Parser.orElse numeric truth)

def value : Nat → Parser Value
  | 0 => scalar
  | levels + 1 => fun
    | '[' :: cs => arrayItems (value levels) cs
    | '\x7b' :: cs => inlineTable (value levels) cs
    | cs => scalar cs

/-! ## Lines -/

inductive Line where
  | blank
  | entry (e : Branch.Entry)
  /-- The header of a table, or of one of several tables under one name: its key by all parts but
  the last and the last one. -/
  | header (repeated : Bool) (path : List String) (name : String)

def headerLine (repeated : Bool) (closing : List Char) : Parser Line := fun cs => do
  let (parts, cs) ← key cs
  let (_, cs) ← Parser.exactly closing cs
  let (_, cs) ← restOfLine cs
  return (.header repeated parts.dropLast (← parts.getLast?), cs)

def entryLine : Parser Line := fun cs => do
  let (e, cs) ← keyValue (value (depthLimit - 1)) cs
  let (_, cs) ← restOfLine cs
  return (.entry e, cs)

/-- A line, and the text from the first character of the next one on. -/
def line : Parser Line := fun cs =>
  let read : Option (Line × List Char) :=
    match cs with
    | [] => none
    | '[' :: '[' :: cs => headerLine true [']', ']'] cs
    | '[' :: cs => headerLine false [']'] cs
    | c :: rest =>
      if c = '#' ∨ c = '\n' ∨ c = '\r' then
        (restOfLine (c :: rest)).map fun (_, cs) => (.blank, cs)
      else entryLine (c :: rest)
  read.map fun (l, cs) => (l, skipBlanks cs)

/-! ## Documents -/

/-- The entries in front of the first header, and what follows it. -/
def leadingEntries : List Line → List Branch.Entry × List Line
  | .entry e :: lines => (e :: (leadingEntries lines).1, (leadingEntries lines).2)
  | .blank :: lines => leadingEntries lines
  | lines => ([], lines)

/-- Adds the tables of all headers among some lines. -/
def addSections (b : Branch) : List Line → Option Branch
  | [] => some b
  | .header repeated path name :: lines => do
    let b ← b.addSection repeated path name (leadingEntries lines).1
    addSections b lines
  | _ :: lines => addSections b lines

def tableOf (lines : List Line) : Option Branch := do
  let b ← Branch.addEntries [] (leadingEntries lines).1
  addSections b (leadingEntries lines).2

def dropMark : List Char → List Char
  | '\uFEFF' :: cs => cs
  | cs => cs

def parse? (s : String) : Option (List (String × Value)) := do
  let lines ← Parser.all line (skipBlanks (dropMark s.toList))
  return (← tableOf lines).closed

end BlocklistWatch.Toml
