import BlocklistWatch.Text.Ascii

/-!
# Writing TOML

A sheet is a document with entries of its own and with tables of entries, one after another. Strings
are written in the form that needs the fewest escapes, lists of several texts one text a line.

* `Sheet.render` writes a sheet.
* `textChars` writes a string.
-/

namespace BlocklistWatch.Toml

/-! ## Strings -/

def isControl (c : Char) : Bool :=
  c.toNat < 0x20 || c.toNat == 0x7F

/-- The length of the longest run of single quotes, going on from one of the given length. -/
def longestQuotes (run : Nat) : List Char → Nat
  | [] => run
  | c :: cs => if c = '\'' then longestQuotes (run + 1) cs else max run (longestQuotes 0 cs)

/-- Whether a text is written as it is, between single quotes: it has something that would be
escaped otherwise, and nothing that single quotes cannot hold. -/
def isLiteral (cs : List Char) : Bool :=
  cs.any (fun c => c == '"' || c == '\\') &&
    cs.all (fun c => c == '\t' || c == '\n' || ! isControl c) &&
    decide (longestQuotes 0 cs < 3) && cs.getLast? != some '\''

def escapedChar (manyLines : Bool) (c : Char) : List Char :=
  match c with
  | '\x08' => ['\\', 'b']
  | '\t' => ['\\', 't']
  | '\n' => if manyLines then ['\n'] else ['\\', 'n']
  | '\x0c' => ['\\', 'f']
  | '\r' => ['\\', 'r']
  | '"' => ['\\', '"']
  | '\\' => ['\\', '\\']
  | c =>
    if isControl c then
      ['\\', 'u', '0', '0', (Text.hexDigit (c.toNat / 16)).toUpper,
        (Text.hexDigit (c.toNat % 16)).toUpper]
    else [c]

def textChars (s : String) : List Char :=
  let cs := s.toList
  let manyLines := cs.contains '\n'
  let threeQuotes (quote : Char) : List Char := List.replicate 3 quote
  if isLiteral cs then
    if manyLines then threeQuotes '\'' ++ '\n' :: cs ++ threeQuotes '\''
    else if cs.contains '\'' then threeQuotes '\'' ++ cs ++ threeQuotes '\''
    else '\'' :: cs ++ ['\'']
  else if manyLines then
    threeQuotes '"' ++ '\n' :: cs.flatMap (escapedChar true) ++ threeQuotes '"'
  else '"' :: cs.flatMap (escapedChar false) ++ ['"']

def textOf (s : String) : String :=
  String.ofList (textChars s)

/-! ## Sheets -/

inductive Item where
  | bool (b : Bool)
  | natural (n : Nat)
  | string (s : String)
  | strings (xs : List String)
deriving DecidableEq, Repr

def Item.text : Item → String
  | bool true => "true"
  | bool false => "false"
  | natural n => Text.decimal n
  | string s => textOf s
  | strings [] => "[]"
  | strings [s] => "[" ++ textOf s ++ "]"
  | strings xs => "[" ++ String.join (xs.map fun s => "\n    " ++ textOf s ++ ",") ++ "\n]"

abbrev Items := List (String × Item)

def Items.text (items : Items) : String :=
  String.join (items.map fun (name, item) => name ++ " = " ++ item.text ++ "\n")

structure Sheet where
  items : Items
  tables : List (String × Items)
deriving DecidableEq, Repr

/-- The text of a sheet that has items of its own: an empty line stands before each table. -/
def Sheet.render (s : Sheet) : String :=
  s.items.text ++
    String.join (s.tables.map fun (name, items) => "\n[" ++ name ++ "]\n" ++ items.text)

end BlocklistWatch.Toml
