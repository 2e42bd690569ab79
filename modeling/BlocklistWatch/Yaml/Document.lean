import BlocklistWatch.Json.Value
import BlocklistWatch.Yaml.Sheet

/-!
# YAML documents

A value as a YAML document: one element or member a line, nested ones indented by two columns, lists
under a name not indented, empty ones in brackets.

* `render` writes the document of a value.
-/

namespace BlocklistWatch.Yaml

open Json (Value)

/-- Doubles stand in positional notation from `10 ^ -5` to below `10 ^ 16`; a positive exponent has
no sign. -/
def floatLayout : FloatLayout := ⟨-5, 15, false⟩

def numberChars : Json.Number → List Char
  | .double negative x => floatLayout.write negative x
  | n => n.chars

/-- Whether a name can stand in front of a colon: on one line and not longer than 128 bytes. -/
def isSimpleName (name : String) : Bool :=
  !name.toList.any isBreak && name.utf8ByteSize ≤ 128

inductive Place where
  | root
  | item (indent : Nat)
  | member (indent : Nat)

def Place.textIndent : Place → Nat
  | root => 2
  | item indent | member indent => indent + 2

/-- The column of the elements of a list: under a name that ends its line they stand where the name
does. -/
def Place.listIndent (s : Sheet) : Place → Nat
  | root => 0
  | item indent => indent + 2
  | member indent => if s.indented then indent + 2 else indent

def Place.objectIndent : Place → Nat
  | root => 0
  | item indent | member indent => indent + 2

mutual

def write (place : Place) (s : Sheet) : Value → Sheet
  | .null => s.plain ['n', 'u', 'l', 'l']
  | .bool true => s.plain ['t', 'r', 'u', 'e']
  | .bool false => s.plain ['f', 'a', 'l', 's', 'e']
  | .number n => s.plain (numberChars n)
  | .string t => s.text (ScalarStyle.forText t.toList) place.textIndent t.toList
  | .array [] => (s.mark ['['] true true false).mark [']'] false false false
  | .array (v :: vs) => writeItems (place.listIndent s) s (v :: vs)
  | .object [] => (s.mark ['\x7b'] true true false).mark ['\x7d'] false false false
  | .object (m :: ms) => writeMembers place.objectIndent s (m :: ms)

def writeItems (indent : Nat) (s : Sheet) : List Value → Sheet
  | [] => s
  | v :: vs =>
    writeItems indent (write (.item indent) ((s.indentTo indent).mark ['-'] true false true) v) vs

def writeMembers (indent : Nat) (s : Sheet) : List (String × Value) → Sheet
  | [] => s
  | (name, v) :: ms =>
    let s := s.indentTo indent
    let style := ScalarStyle.forText name.toList
    let s :=
      if isSimpleName name then
        (s.text style (indent + 2) name.toList).mark [':'] false false false
      else
        let s := s.mark ['?'] true false true
        let s := s.text style (indent + 2) name.toList
        (s.indentTo indent).mark [':'] true false true
    writeMembers indent (write (.member indent) s v) ms

end

def render (v : Value) : String :=
  String.ofList ((write .root .blank v).indentTo 0).written

end BlocklistWatch.Yaml
