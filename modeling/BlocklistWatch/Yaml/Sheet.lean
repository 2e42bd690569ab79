import BlocklistWatch.Yaml.Scalar

/-!
# Pages of a YAML document

A page under the writer's hand: what is written, in which column it stands, and whether the line
holds anything but indentation so far.

* `Sheet.put`, `Sheet.breakLine`, `Sheet.indentTo` and `Sheet.mark` are the strokes of the pen.
* `Sheet.text` writes a text in its style.
-/

namespace BlocklistWatch.Yaml

structure Sheet where
  /-- What is written, the last character first. -/
  reversed : List Char
  column : Nat
  /-- Whether the next word needs no space in front of it. -/
  spaced : Bool
  /-- Whether the line holds nothing but indentation. -/
  indented : Bool

namespace Sheet

def blank : Sheet := ⟨[], 0, true, true⟩

def written (s : Sheet) : List Char :=
  s.reversed.reverse

def put (s : Sheet) (c : Char) : Sheet :=
  { s with reversed := c :: s.reversed, column := s.column + 1 }

def puts (s : Sheet) (cs : List Char) : Sheet :=
  cs.foldl put s

def putBreak (s : Sheet) (c : Char) : Sheet :=
  { s with reversed := c :: s.reversed, column := 0 }

def breakLine (s : Sheet) : Sheet :=
  s.putBreak '\n'

def indentTo (s : Sheet) (indent : Nat) : Sheet :=
  let s :=
    if !s.indented || indent < s.column || (s.column == indent && !s.spaced) then s.breakLine else s
  let s := s.puts (List.replicate (indent - s.column) ' ')
  { s with spaced := true, indented := true }

/-- A mark of structure. `apart` asks for a space in front of it, `opens` says that none is needed
after it, `indents` that it counts as indentation. -/
def mark (s : Sheet) (cs : List Char) (apart opens indents : Bool) : Sheet :=
  let s := if apart && !s.spaced then s.put ' ' else s
  let s := s.puts cs
  { s with spaced := opens, indented := s.indented && indents }

def afterWord (s : Sheet) : Sheet :=
  { s with spaced := false, indented := false }

/-! ## Texts -/

def plain (s : Sheet) (cs : List Char) : Sheet :=
  let s := if s.spaced || cs.isEmpty then s else s.put ' '
  (s.puts cs).afterWord

/-- One character between single quotes; `broken` says that a line break came before it. -/
def singleQuotedChar (indent : Nat) (s : Sheet) (broken : Bool) (c : Char) : Sheet × Bool :=
  if c = ' ' then (s.put ' ', broken)
  else if isBreak c then
    let s := if !broken && c == '\n' then s.breakLine else s
    ({ s.putBreak c with indented := true }, true)
  else
    let s := if broken then s.indentTo indent else s
    let s := if c = '\'' then s.put '\'' else s
    ({ s.put c with indented := false }, false)

def singleQuoted (s : Sheet) (indent : Nat) (cs : List Char) : Sheet :=
  let s := s.mark ['\''] true false false
  let (s, broken) := cs.foldl (fun (s, broken) c => singleQuotedChar indent s broken c) (s, false)
  let s := if broken then s.indentTo indent else s
  (s.mark ['\''] false false false).afterWord

def escapeLetter? (c : Char) : Option Char :=
  match c.toNat with
  | 0x00 => some '0'
  | 0x07 => some 'a'
  | 0x08 => some 'b'
  | 0x09 => some 't'
  | 0x0A => some 'n'
  | 0x0B => some 'v'
  | 0x0C => some 'f'
  | 0x0D => some 'r'
  | 0x1B => some 'e'
  | 0x22 => some '"'
  | 0x5C => some '\\'
  | 0x85 => some 'N'
  | 0xA0 => some '_'
  | 0x2028 => some 'L'
  | 0x2029 => some 'P'
  | _ => none

def hexCapitals (width n : Nat) : List Char :=
  (Text.padZeros width (Text.digitsOnto 16 n [])).map fun c =>
    if 'a' ≤ c ∧ c ≤ 'f' then Char.ofNat (c.toNat - 32) else c

def doubleQuotedChar (c : Char) : List Char :=
  if isPrintable c && !isBreak c && c != '"' && c != '\\' then [c]
  else
    match escapeLetter? c with
    | some l => ['\\', l]
    | none =>
      let n := c.toNat
      if n ≤ 0xFF then '\\' :: 'x' :: hexCapitals 2 n
      else if n ≤ 0xFFFF then '\\' :: 'u' :: hexCapitals 4 n
      else '\\' :: 'U' :: hexCapitals 8 n

def doubleQuoted (s : Sheet) (cs : List Char) : Sheet :=
  let s := s.mark ['"'] true false false
  let s := s.puts (cs.flatMap doubleQuotedChar)
  (s.mark ['"'] false false false).afterWord

/-- What is said about the line breaks at the end of a block of lines: `-` if there is none, `+` if
there are several or nothing else. -/
def chomping (cs : List Char) : List Char :=
  match cs.reverse with
  | [] => ['-']
  | c :: before =>
    if !isBreak c then ['-']
    else
      match before with
      | [] => ['+']
      | b :: _ => if isBreak b then ['+'] else []

/-- One character of a block of lines; `broken` says that the line is new. -/
def literalChar (indent : Nat) (s : Sheet) (broken : Bool) (c : Char) : Sheet × Bool :=
  if isBreak c then ({ s.putBreak c with indented := true }, true)
  else
    let s := if broken then s.indentTo indent else s
    ({ s.put c with indented := false }, false)

def literal (s : Sheet) (indent : Nat) (cs : List Char) : Sheet :=
  let s := s.mark ['|'] true false false
  let s := match cs with
    | [] => s
    | c :: _ => if c = ' ' ∨ isBreak c then s.mark ['2'] false false false else s
  let s := s.mark (chomping cs) false false false
  let s := { s.breakLine with spaced := true, indented := true }
  (cs.foldl (fun (s, broken) c => literalChar indent s broken c) (s, true)).1

def text (s : Sheet) (style : ScalarStyle) (indent : Nat) (cs : List Char) : Sheet :=
  match style with
  | .plain => s.plain cs
  | .singleQuoted => s.singleQuoted indent cs
  | .doubleQuoted => s.doubleQuoted cs
  | .literal => s.literal indent cs

end Sheet

end BlocklistWatch.Yaml
