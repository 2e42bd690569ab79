import BlocklistWatch.Text.Parser
import BlocklistWatch.Yaml.Scalar

/-!
# Reading lists of texts in YAML

A reader for a small part of YAML: comment lines, then a single name and under it a list of texts,
whose elements stand at the beginning of a line each. The reader is strict. Whatever is not of this
form, or would need a rule that it does not know, it refuses. So what it reads means the same to all
readers that take the line and paragraph separators of Unicode for line breaks.

* `TextList.scalar` reads one text, plain, between quotes or as a block of lines.
* `TextList.read?` reads a whole stream.
-/

namespace BlocklistWatch.Yaml.TextList

open Text (Parser)

/-! ## Lines -/

/-- The characters that can stand in a stream; a byte order mark can only begin one. -/
def isReadable (c : Char) : Bool :=
  let n := c.toNat
  n == 0x09 || n == 0x0A || n == 0x0D || (0x20 ≤ n && n ≤ 0x7E) || n == 0x85 ||
    (0xA0 ≤ n && n != 0xFEFF && n != 0xFFFE && n != 0xFFFF)

/-- The line breaks that a text keeps when it is folded. -/
def isSeparator (c : Char) : Bool :=
  c == '\u2028' || c == '\u2029'

def lineEnd : Parser Char :=
  Parser.one isBreak

def commentLine : Parser Char
  | '#' :: cs => lineEnd (cs.dropWhile fun c => !isBreak c)
  | _ => none

/-- The next line without its indentation by two columns, which an empty line need not have. -/
def indented? : List Char → Option (List Char)
  | ' ' :: ' ' :: cs => some cs
  | c :: cs => if isBreak c then some (c :: cs) else none
  | [] => none

/-! ## Texts between quotes -/

/-- One character between single quotes. A quote is written twice; of the breaks only those are read
that are kept, without a space on either side but for the indentation. -/
def singleQuotedChar : Parser Char
  | [] => none
  | '\'' :: cs => (Parser.exactly ['\''] cs).map fun (_, cs) => ('\'', cs)
  | c :: cs =>
    if isSeparator c then
      ((indented? cs).filter fun line => line.head? != some ' ').map fun line => (c, line)
    else if isBreak c || (c == ' ' && cs.head?.any isBreak) then none
    else some (c, cs)

def letterChar? : Char → Option Char
  | '0' => some '\x00'
  | 'a' => some '\x07'
  | 'b' => some '\x08'
  | 't' => some '\t'
  | 'n' => some '\n'
  | 'v' => some '\x0b'
  | 'f' => some '\x0c'
  | 'r' => some '\r'
  | 'e' => some '\x1b'
  | '"' => some '"'
  | '\\' => some '\\'
  | 'N' => some '\u0085'
  | '_' => some '\u00a0'
  | 'L' => some '\u2028'
  | 'P' => some '\u2029'
  | _ => none

/-- A character by its number, of which so many hexadecimal digits are given. -/
def numberedChar (width : Nat) : Parser Char := fun cs =>
  if width ≤ cs.length then
    match digitsIn? 16 (cs.take width) with
    | some n => if n.isValidChar then some (Char.ofNat n, cs.drop width) else none
    | none => none
  else none

/-- One character between double quotes; a break is written by a letter. -/
def doubleQuotedChar : Parser Char
  | [] => none
  | '\\' :: 'x' :: cs => numberedChar 2 cs
  | '\\' :: 'u' :: cs => numberedChar 4 cs
  | '\\' :: 'U' :: cs => numberedChar 8 cs
  | '\\' :: l :: cs => (letterChar? l).map fun c => (c, cs)
  | c :: cs => if c == '"' || c == '\\' || isBreak c then none else some (c, cs)

/-- The rest of a text between quotes, after the first of them. -/
def quoted (quote : Char) (char : Parser Char) : Parser (List Char) := fun cs =>
  let (text, cs) := Parser.many char cs
  (Parser.exactly [quote] cs).map fun (_, cs) => (text, cs)

/-! ## Blocks of lines -/

/-- One character of a block of lines; the break after the block is none. -/
def literalChar : Parser Char
  | [] => none
  | c :: cs =>
    if c == '\n' || isSeparator c then (indented? cs).map fun line => (c, line)
    else if isBreak c then none
    else some (c, cs)

/-- The rest of a block of lines, after the bar. It must begin and end inside a line, so that its
indentation shows and no breaks are left at its end. -/
def literal : Parser (List Char) := fun cs => do
  let (_, cs) ← Parser.exactly ['-', '\n', ' ', ' '] cs
  let (text, cs) := Parser.many literalChar cs
  if isBoundary text.head? || text.getLast?.any isBreak then none else some (text, cs)

/-! ## Plain texts -/

/-- Whether a plain text can go on like this after a character: no colon or number sign that means
structure, and no blank at the end. -/
def goesOnPlain (before : Char) : List Char → Bool
  | [] => before != ' '
  | c :: cs =>
    !(c == ':' && isBoundary cs.head?) && !(c == '#' && before == ' ') && c != '\t' &&
      goesOnPlain c cs

def isPlain : List Char → Bool
  | [] => false
  | c :: cs =>
    !isLeadingIndicator c && c != ' ' && c != '\t' &&
      !((c == '?' || c == ':' || c == '-') && isBoundary cs.head?) && goesOnPlain c cs

/-- A text without quotes goes to the end of its line. -/
def plain : Parser (List Char) := fun cs =>
  let line := cs.takeWhile fun c => !isBreak c
  if isPlain line && !isAmbiguous line then some (line, cs.dropWhile fun c => !isBreak c) else none

/-! ## Lists -/

def scalar : Parser (List Char)
  | '\'' :: cs => quoted '\'' singleQuotedChar cs
  | '"' :: cs => quoted '"' doubleQuotedChar cs
  | '|' :: cs => literal cs
  | cs => plain cs

def item : Parser (List Char) := fun cs => do
  let (_, cs) ← Parser.exactly ['-', ' '] cs
  let (text, cs) ← scalar cs
  let (_, cs) ← lineEnd cs
  return (text, cs)

/-- What stands under a name: brackets in its line if there is nothing, otherwise an element or more
from the next line on. -/
def items? (cs : List Char) : Option (List (List Char)) :=
  match lineEnd cs with
  | some (_, cs) => (Parser.all item cs).filter fun texts => !texts.isEmpty
  | none => if cs = " []\n".toList then some [] else none

/-- The list of texts under a name that is all that a stream holds, comment lines in front apart. -/
def read? (name : String) (stream : String) : Option (List String) :=
  if stream.toList.all isReadable then do
    let (_, cs) ← Parser.exactly (name.toList ++ [':']) (Parser.many commentLine stream.toList).2
    let texts ← items? cs
    return texts.map String.ofList
  else none

end BlocklistWatch.Yaml.TextList
