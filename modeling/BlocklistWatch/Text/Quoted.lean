import BlocklistWatch.Text.Ascii
import BlocklistWatch.Text.Unprintable

/-!
# Quoted texts

A text shown between double quotes in such a way that every character can be told apart: the quote
and the backslash get a backslash in front, line breaks, tabs and NUL have letters of their own, and
every other character without a visible shape is written by its number.

* `quoted` shows one text, `quotedList` a list of texts.
-/

namespace BlocklistWatch.Text

/-- A character by its number: `\u`, and the hexadecimal digits in braces. -/
def numberedEscape (c : Char) : List Char :=
  ['\\', 'u', '\x7b'] ++ digitsOnto 16 c.toNat ['\x7d']

def quotedChar (c : Char) : List Char :=
  match c with
  | '"' => ['\\', '"']
  | '\\' => ['\\', '\\']
  | '\n' => ['\\', 'n']
  | '\r' => ['\\', 'r']
  | '\t' => ['\\', 't']
  | '\x00' => ['\\', '0']
  | c => if isUnprintable c then numberedEscape c else [c]

def quoted (s : String) : String :=
  String.ofList ('"' :: s.toList.flatMap quotedChar ++ ['"'])

def quotedList (parts : List String) : String :=
  "[" ++ ", ".intercalate (parts.map quoted) ++ "]"

def backquoted (s : String) : String :=
  "`" ++ s ++ "`"

end BlocklistWatch.Text
