import BlocklistWatch.Yaml.Plain

/-!
# Styles of YAML scalars

A text can be written plain, in single or double quotes, or as a block of lines. What its characters
are decides which of these are allowed, and what it looks like which is wanted.

* `Traits.of` collects what matters about the characters of a text.
* `ScalarStyle.forText` chooses the style of a text.
-/

namespace BlocklistWatch.Yaml

inductive ScalarStyle where
  | plain
  | singleQuoted
  | doubleQuoted
  | literal
deriving DecidableEq, Repr, Inhabited

def isBreak (c : Char) : Bool :=
  c == '\n' || c == '\r' || c == '\u0085' || c == '\u2028' || c == '\u2029'

def isPrintable (c : Char) : Bool :=
  let n := c.toNat
  n == 0x0A || (0x20 ≤ n && n ≤ 0x7E) || (0xA0 ≤ n && n != 0xFEFF && n != 0xFFFE && n != 0xFFFF)

def isBoundary (c : Option Char) : Bool :=
  match c with
  | none => true
  | some c => c == ' ' || c == '\t' || c == '\x00' || isBreak c

structure Traits where
  indicator : Bool := false
  special : Bool := false
  lineBreak : Bool := false
  leadingBlank : Bool := false
  trailingSpace : Bool := false
  trailingBreak : Bool := false
  breakSpace : Bool := false
  spaceBreak : Bool := false
deriving Repr

def isLeadingIndicator (c : Char) : Bool :=
  ['#', ',', '[', ']', '\x7b', '\x7d', '&', '*', '!', '|', '>', '\'', '"', '%', '@', '`'].contains c

/-- Whether a character means structure, given its neighbours. -/
def isIndicator (before : Option Char) (c : Char) (next : Option Char) : Bool :=
  match before with
  | none =>
    isLeadingIndicator c || ((c == '?' || c == ':' || c == '-') && isBoundary next)
  | some b => (c == ':' && isBoundary next) || (c == '#' && isBoundary (some b))

/-- The traits of the text from a character on, given the character before it. -/
def Traits.go (before : Option Char) (t : Traits) : List Char → Traits
  | [] => t
  | c :: cs =>
    let space := c == ' '
    let broken := isBreak c
    let afterBreak := match before with
      | some b => isBreak b
      | none => false
    Traits.go (some c) {
      indicator := t.indicator || isIndicator before c cs.head?
      special := t.special || !isPrintable c
      lineBreak := t.lineBreak || broken
      leadingBlank := t.leadingBlank || (before.isNone && (space || broken))
      trailingSpace := space
      trailingBreak := broken
      breakSpace := t.breakSpace || (space && afterBreak)
      spaceBreak := t.spaceBreak || (broken && before == some ' ') } cs

def beginsLikeMark (cs : List Char) : Bool :=
  (Text.stripPrefix? ['-', '-', '-'] cs).isSome || (Text.stripPrefix? ['.', '.', '.'] cs).isSome

def Traits.of (cs : List Char) : Traits :=
  Traits.go none { indicator := beginsLikeMark cs } cs

namespace Traits

def allowsPlain (t : Traits) : Bool :=
  !(t.indicator || t.special || t.lineBreak || t.leadingBlank || t.trailingSpace)

def allowsSingleQuoted (t : Traits) : Bool :=
  !(t.breakSpace || t.spaceBreak || t.special)

def allowsLiteral (t : Traits) : Bool :=
  !(t.trailingSpace || t.spaceBreak || t.special)

end Traits

/-- The style of a text: lines as a block, otherwise plain, but quoted where it would be taken for
something else. -/
def ScalarStyle.forText (cs : List Char) : ScalarStyle :=
  let t := Traits.of cs
  let quoted := if t.allowsSingleQuoted then ScalarStyle.singleQuoted else .doubleQuoted
  if cs.contains '\n' then if t.allowsLiteral then .literal else .doubleQuoted
  else if isAmbiguous cs then quoted
  else if t.allowsPlain then .plain
  else quoted

end BlocklistWatch.Yaml
