import BlocklistWatch.Text.Ascii
import BlocklistWatch.Text.Parser

/-!
# Texts and keys in TOML

Strings in their four written forms, blanks, line ends, comments and keys.

* `stringText` reads a string in any form, `key` a key of one or more parts.
-/

namespace BlocklistWatch.Toml

open Text (Parser)

/-! ## Blanks, line ends, comments -/

def isBlank (c : Char) : Bool :=
  c == ' ' || c == '\t'

def skipBlanks (cs : List Char) : List Char :=
  cs.dropWhile isBlank

/-- Characters that may stand in a line: a tab and what is not a control character of ASCII. -/
def isLineChar (c : Char) : Bool :=
  c == '\t' || (0x20 ≤ c.toNat && c.toNat != 0x7F)

def afterLineEnd? : List Char → Option (List Char)
  | '\n' :: cs => some cs
  | '\r' :: '\n' :: cs => some cs
  | _ => none

def skipComment : List Char → List Char
  | '#' :: cs => cs.dropWhile isLineChar
  | cs => cs

/-- The rest of a line: blanks, possibly a comment, and the end of the line or of the text. -/
def restOfLine : Parser Unit := fun cs =>
  match skipComment (skipBlanks cs) with
  | [] => some ((), [])
  | cs => (afterLineEnd? cs).map fun cs => ((), cs)

def skipLines : List Char → List Char
  | ' ' :: cs | '\t' :: cs | '\n' :: cs | '\r' :: '\n' :: cs => skipLines cs
  | cs => cs

def gap : Parser Unit
  | '#' :: cs => (afterLineEnd? (skipComment ('#' :: cs))).map fun cs => ((), cs)
  | c :: cs =>
    if isBlank c then some ((), cs) else (afterLineEnd? (c :: cs)).map fun cs => ((), cs)
  | [] => none

def skipGaps (cs : List Char) : List Char :=
  (Parser.many gap cs).2

/-! ## Strings -/

def hexNumber? (cs : List Char) : Option Nat :=
  cs.foldlM (fun n c => (Text.hexValue? c).map (16 * n + ·)) 0

def numbered (count : Nat) : Parser Char := fun cs => do
  let n ← hexNumber? (cs.take count)
  if (cs.take count).length = count ∧ n.isValidChar then some (.ofNat n, cs.drop count) else none

def escaped : Parser Char
  | '"' :: cs => some ('"', cs)
  | '\\' :: cs => some ('\\', cs)
  | 'b' :: cs => some ('\x08', cs)
  | 't' :: cs => some ('\t', cs)
  | 'n' :: cs => some ('\n', cs)
  | 'f' :: cs => some ('\x0c', cs)
  | 'r' :: cs => some ('\r', cs)
  | 'u' :: cs => numbered 4 cs
  | 'U' :: cs => numbered 8 cs
  | _ => none

def quotedChar : Parser Char
  | '\\' :: cs => escaped cs
  | c :: cs => if c ≠ '"' ∧ isLineChar c then some (c, cs) else none
  | [] => none

/-- What may stand at one place of a string over several lines: a character, or nothing where a
backslash joins lines. -/
def longChar (quote : Char) : Parser (Option Char)
  | '\\' :: cs =>
    if quote = '\'' then some (some '\\', cs)
    else
      match afterLineEnd? (skipBlanks cs) with
      | some cs => some (none, skipLines cs)
      | none => (escaped cs).map fun (c, cs) => (some c, cs)
  | c :: cs =>
    if isLineChar c then some (some c, cs)
    else (afterLineEnd? (c :: cs)).map fun cs => (some '\n', cs)
  | [] => none

def quoteCount (quote : Char) (cs : List Char) : Nat :=
  (cs.takeWhile (· == quote)).length

/-- A place inside a string over several lines: three quotes end it. -/
def longBody (quote : Char) : Parser (Option Char) := fun cs =>
  if 3 ≤ quoteCount quote cs then none else longChar quote cs

/-- A string over several lines after its three quotes: a line end right there does not count, and
up to two quotes may stand in front of the last three. -/
def longText (quote : Char) : Parser String := fun cs =>
  let (body, cs) := Parser.many (longBody quote) ((afterLineEnd? cs).getD cs)
  let count := quoteCount quote cs
  if count < 3 then none
  else
    let extra := min (count - 3) 2
    some (.ofList (body.filterMap id ++ List.replicate extra quote), cs.drop (extra + 3))

def shortText : Parser String := fun cs =>
  match Parser.many quotedChar cs with
  | (body, '"' :: cs) => some (.ofList body, cs)
  | _ => none

def plainText : Parser String := fun cs =>
  match Parser.many (Parser.one fun c => c != '\'' && isLineChar c) cs with
  | (body, '\'' :: cs) => some (.ofList body, cs)
  | _ => none

def stringText : Parser String
  | '"' :: '"' :: '"' :: cs => longText '"' cs
  | '"' :: cs => shortText cs
  | '\'' :: '\'' :: '\'' :: cs => longText '\'' cs
  | '\'' :: cs => plainText cs
  | _ => none

/-! ## Keys -/

def isKeyChar (c : Char) : Bool :=
  c.isAlphanum || c == '-' || c == '_'

def keyPart : Parser String
  | '"' :: cs => shortText cs
  | '\'' :: cs => plainText cs
  | cs =>
    match cs.span isKeyChar with
    | ([], _) => none
    | (name, cs) => some (.ofList name, cs)

def spacedPart : Parser String := fun cs =>
  (keyPart (skipBlanks cs)).map fun (part, cs) => (part, skipBlanks cs)

/-- The number of parts of a key, and of levels of a value, stays below this. -/
def depthLimit : Nat := 80

def key : Parser (List String) := fun cs => do
  let (parts, cs) ← Parser.sepBy spacedPart (Parser.exactly ['.']) cs
  if parts.length < depthLimit then some (parts, cs) else none

end BlocklistWatch.Toml
