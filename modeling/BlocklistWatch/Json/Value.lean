import BlocklistWatch.Json.Number

/-!
# JSON values

The values of JSON texts and their two written forms. The members of an object keep the order that
they are given in; `insertMember` keeps them in increasing order of their names.

* `Value.compact` writes a value without any blank.
* `Value.pretty` writes one element or member a line, indented by two spaces a level.
-/

namespace BlocklistWatch.Json

inductive Value where
  | null
  | bool (b : Bool)
  | number (n : Number)
  | string (s : String)
  | array (items : List Value)
  | object (members : List (String × Value))
deriving Repr, Inhabited

namespace Value

def nat (n : Nat) : Value :=
  .number (.natural n)

def double (x : Binary64) : Value :=
  .number (.double false x)

def strings (xs : List String) : Value :=
  .array (xs.map .string)

def optional {α : Type} (f : α → Value) : Option α → Value
  | none => .null
  | some a => f a

end Value

/-- The members with one more in its place by name, instead of one of the same name. -/
def insertMember {α : Type} (name : String) (v : α) : List (String × α) → List (String × α)
  | [] => [(name, v)]
  | (n, w) :: rest =>
    if name < n then (name, v) :: (n, w) :: rest
    else if name = n then (name, v) :: rest
    else (n, w) :: insertMember name v rest

/-- The members in increasing order of their names, of those with one name the last. -/
def sortMembers {α : Type} (members : List (String × α)) : List (String × α) :=
  members.foldl (fun sorted m => insertMember m.1 m.2 sorted) []

/-! ## Written strings -/

def stringChar (c : Char) : List Char :=
  match c with
  | '"' => ['\\', '"']
  | '\\' => ['\\', '\\']
  | '\x08' => ['\\', 'b']
  | '\t' => ['\\', 't']
  | '\n' => ['\\', 'n']
  | '\x0c' => ['\\', 'f']
  | '\r' => ['\\', 'r']
  | c =>
    if c.toNat < 0x20 then
      ['\\', 'u', '0', '0', Text.hexDigit (c.toNat / 16), Text.hexDigit (c.toNat % 16)]
    else [c]

def stringChars (s : String) : List Char :=
  '"' :: s.toList.flatMap stringChar ++ ['"']

namespace Value

/-! ## The compact form -/

mutual

def compactChars : Value → List Char
  | .null => ['n', 'u', 'l', 'l']
  | .bool true => ['t', 'r', 'u', 'e']
  | .bool false => ['f', 'a', 'l', 's', 'e']
  | .number n => n.chars
  | .string s => stringChars s
  | .array items => '[' :: compactItems items
  | .object members => '\x7b' :: compactMembers members

def compactItems : List Value → List Char
  | [] => [']']
  | v :: vs => compactChars v ++ compactMoreItems vs

def compactMoreItems : List Value → List Char
  | [] => [']']
  | v :: vs => ',' :: compactChars v ++ compactMoreItems vs

def compactMembers : List (String × Value) → List Char
  | [] => ['\x7d']
  | (name, v) :: ms => stringChars name ++ ':' :: compactChars v ++ compactMoreMembers ms

def compactMoreMembers : List (String × Value) → List Char
  | [] => ['\x7d']
  | (name, v) :: ms =>
    ',' :: stringChars name ++ ':' :: compactChars v ++ compactMoreMembers ms

end

def compact (v : Value) : String :=
  String.ofList v.compactChars

/-! ## The form with one element a line -/

def lineBreak (level : Nat) : List Char :=
  '\n' :: List.replicate (2 * level) ' '

mutual

/-- The characters of the form with one element a line, for a value at the given level. -/
def prettyChars (level : Nat) : Value → List Char
  | .null => ['n', 'u', 'l', 'l']
  | .bool true => ['t', 'r', 'u', 'e']
  | .bool false => ['f', 'a', 'l', 's', 'e']
  | .number n => n.chars
  | .string s => stringChars s
  | .array items => '[' :: prettyItems level items
  | .object members => '\x7b' :: prettyMembers level members

def prettyItems (level : Nat) : List Value → List Char
  | [] => [']']
  | v :: vs => lineBreak (level + 1) ++ prettyChars (level + 1) v ++ prettyMoreItems level vs

def prettyMoreItems (level : Nat) : List Value → List Char
  | [] => lineBreak level ++ [']']
  | v :: vs => ',' :: lineBreak (level + 1) ++ prettyChars (level + 1) v ++ prettyMoreItems level vs

def prettyMembers (level : Nat) : List (String × Value) → List Char
  | [] => ['\x7d']
  | (name, v) :: ms =>
    lineBreak (level + 1) ++ stringChars name ++ ':' :: ' ' :: prettyChars (level + 1) v ++
      prettyMoreMembers level ms

def prettyMoreMembers (level : Nat) : List (String × Value) → List Char
  | [] => lineBreak level ++ ['\x7d']
  | (name, v) :: ms =>
    ',' :: lineBreak (level + 1) ++ stringChars name ++ ':' :: ' ' :: prettyChars (level + 1) v ++
      prettyMoreMembers level ms

end

def pretty (v : Value) : String :=
  String.ofList (v.prettyChars 0)

end Value

end BlocklistWatch.Json
