import BlocklistWatch.Json.Reading
import BlocklistWatch.Json.Value
import BlocklistWatch.Text.Quoted
import BlocklistWatch.Text.Sorted

/-!
# Decoding JSON

Values of a wanted type from what was read of a text. A decoder walks the tree in the order of the
text and reports the first thing that is wrong, be it a fault of the text or a value of another
shape.

* `Decoder.bool`, `Decoder.text`, `Decoder.natural`, `Decoder.list`, `Decoder.choice` and
  `Decoder.value` decode single values, `Shape` the fields of a record.
* `Decoder.run` decodes a whole text.
-/

namespace BlocklistWatch.Json

inductive DecodeError where
  | fault (f : Fault)
  | wrongType (found expected : String)
  | wrongValue (found expected : String)
  | wrongLength (found : Nat) (expected : String)
  | missingField (name : String)
  | duplicateField (name : String)
  | unknownChoice (found : String) (choices : List String)
  | badText (reason : String)
deriving DecidableEq, Repr

namespace DecodeError

def choicesText : List String → String
  | [] => "there are no variants"
  | [a] => "expected " ++ Text.backquoted a
  | [a, b] => "expected " ++ Text.backquoted a ++ " or " ++ Text.backquoted b
  | choices => "expected one of " ++ ", ".intercalate (choices.map Text.backquoted)

def message? : DecodeError → Option String
  | fault _ => none
  | wrongType found expected => some ("invalid type: " ++ found ++ ", expected " ++ expected)
  | wrongValue found expected => some ("invalid value: " ++ found ++ ", expected " ++ expected)
  | wrongLength found expected =>
    some ("invalid length " ++ Text.decimal found ++ ", expected " ++ expected)
  | missingField name => some ("missing field " ++ Text.backquoted name)
  | duplicateField name => some ("duplicate field " ++ Text.backquoted name)
  | unknownChoice found choices =>
    some ("unknown variant " ++ Text.backquoted found ++ ", " ++ choicesText choices)
  | badText reason => some reason

end DecodeError

/-- How values of a type are decoded, inside a given number of levels that may still be entered,
plus one. -/
abbrev Decoder (α : Type) := Nat → Reading → Except DecodeError α

namespace Decoder

/-- The number of levels of a text, plus one. -/
def maxDepth : Nat := 128

def enter (depth : Nat) : Except DecodeError Nat :=
  if depth ≤ 1 then .error (.fault .malformed) else .ok (depth - 1)

def orFault {α : Type} : Except Fault α → Except DecodeError α
  | .ok a => .ok a
  | .error f => .error (.fault f)

/-- An end of an array or object: fine, or a fault. -/
def ending : Option Fault → Except DecodeError Unit
  | none => .ok ()
  | some f => .error (.fault f)

/-! ## Values of another type -/

def shownNumber : Number → String
  | .natural n => "integer " ++ Text.backquoted (Text.decimal n)
  | .minus n => "integer " ++ Text.backquoted ("-" ++ Text.decimal n)
  | .double negative x =>
    "floating point " ++ Text.backquoted (String.ofList (Number.layout.write negative x))

def numberOf (t : NumberText) : Except DecodeError Number :=
  match Number.ofText? t with
  | some n => .ok n
  | none => .error (.fault .malformed)

def shown : Reading → Except DecodeError String
  | .null => .ok "null"
  | .bool true => .ok ("boolean " ++ Text.backquoted "true")
  | .bool false => .ok ("boolean " ++ Text.backquoted "false")
  | .number t => (numberOf t).map shownNumber
  | .badNumber f | .badLiteral f | .missing f => .error (.fault f)
  | .string s => (orFault s.value).map fun text => "string " ++ Text.quoted text
  | .array _ _ => .ok "sequence"
  | .object _ _ | .nameless _ => .ok "map"

def mismatch {α : Type} (expected : String) (r : Reading) : Except DecodeError α :=
  match shown r with
  | .ok found => .error (.wrongType found expected)
  | .error e => .error e

/-! ## Single values -/

def map {α β : Type} (f : α → β) (d : Decoder α) : Decoder β :=
  fun depth r => (d depth r).map f

def bool : Decoder Bool
  | _, .bool b => .ok b
  | _, r => mismatch "a boolean" r

def textAs (expected : String) : Decoder String
  | _, .string s => orFault s.value
  | _, r => mismatch expected r

def text : Decoder String :=
  textAs "a string"

def parsed {α : Type} (expected : String) (parse : String → Except String α) : Decoder α :=
  fun depth r => do
    let s ← textAs expected depth r
    match parse s with
    | .ok a => .ok a
    | .error reason => .error (.badText reason)

def natural (expected : String) (max : Nat) : Decoder Nat
  | _, .number t => do
    let n ← numberOf t
    match n with
    | .natural v => if v ≤ max then .ok v else .error (.wrongValue (shownNumber n) expected)
    | .minus _ => .error (.wrongValue (shownNumber n) expected)
    | .double _ _ => .error (.wrongType (shownNumber n) expected)
  | _, r => mismatch expected r

def nullable {α : Type} (d : Decoder α) : Decoder (Option α)
  | _, .null => .ok none
  | depth, r => (d depth r).map some

def items {α : Type} (d : Decoder α) (depth : Nat) (stop : Option Fault) :
    List Reading → Except DecodeError (List α)
  | [] => (ending stop).map fun _ => []
  | r :: rs => do
    let a ← d depth r
    let as ← items d depth stop rs
    return a :: as

def list {α : Type} (d : Decoder α) : Decoder (List α)
  | depth, .array rs stop => do items d (← enter depth) stop rs
  | _, r => mismatch "a sequence" r

/-! ## Choices -/

def choiceOf {α : Type} (choices : List (String × α)) (name : String) : Except DecodeError α :=
  match choices.find? (·.1 == name) with
  | some (_, a) => .ok a
  | none => .error (.unknownChoice name (choices.map (·.1)))

/-- One of some named values: the name as a string, or an object that gives the name the value
null. -/
def choice {α : Type} (choices : List (String × α)) : Decoder α
  | _, .string s => do choiceOf choices (← orFault s.value)
  | depth, .object [] stop => do
    let _ ← enter depth
    .error (.fault (stop.getD .malformed))
  | depth, .object ((name, r) :: rest) stop => do
    let _ ← enter depth
    let a ← choiceOf choices (← orFault name.value)
    match r with
    | .null =>
      match rest with
      | [] => (ending stop).map fun _ => a
      | _ :: _ => .error (.fault .malformed)
    | r => mismatch "unit" r
  | depth, .nameless r => do
    let _ ← enter depth
    mismatch "variant identifier" r
  | _, .missing f => .error (.fault f)
  | _, _ => .error (.fault .malformed)

/-- The members of an object whose names are choices; of those with one name the last counts. -/
def choiceMembers {α β : Type} (choices : List (String × α)) (d : Decoder β) (depth : Nat)
    (stop : Option Fault) : List (StringText × Reading) → Except DecodeError (List (α × β))
  | [] => (ending stop).map fun _ => []
  | (name, r) :: rest => do
    let a ← choiceOf choices (← orFault name.value)
    let b ← d depth r
    let ms ← choiceMembers choices d depth stop rest
    return (a, b) :: ms

/-- An object whose names are choices, as the pairs in the order of the text. -/
def choiceMap {α β : Type} (choices : List (String × α)) (d : Decoder β) : Decoder (List (α × β))
  | depth, .object members stop => do choiceMembers choices d (← enter depth) stop members
  | _, .nameless _ => .error (.fault .malformed)
  | _, r => mismatch "a map" r

/-! ## Free values -/

mutual

/-- Any value; of members with one name the last counts, and members are in increasing order. -/
def value (depth : Nat) : Reading → Except DecodeError Value
  | .null => .ok .null
  | .bool b => .ok (.bool b)
  | .number t => (numberOf t).map .number
  | .badNumber f | .badLiteral f | .missing f => .error (.fault f)
  | .string s => (orFault s.value).map .string
  | .array rs stop => do return .array (← valueItems (← enter depth) stop rs)
  | .object members stop => do
    return .object (sortMembers (← valueMembers (← enter depth) stop members))
  | .nameless _ => .error (.fault .malformed)

def valueItems (depth : Nat) (stop : Option Fault) :
    List Reading → Except DecodeError (List Value)
  | [] => (ending stop).map fun _ => []
  | r :: rs => do
    let v ← value depth r
    let vs ← valueItems depth stop rs
    return v :: vs

def valueMembers (depth : Nat) (stop : Option Fault) :
    List (StringText × Reading) → Except DecodeError (List (String × Value))
  | [] => (ending stop).map fun _ => []
  | (name, r) :: rest => do
    let name ← orFault name.value
    let v ← value depth r
    let ms ← valueMembers depth stop rest
    return (name, v) :: ms

end

/-! ## Whole texts -/

def run {α : Type} (d : Decoder α) (s : String) : Except DecodeError α :=
  let (r, more) := Reading.ofString s
  match d maxDepth r with
  | .error e => .error e
  | .ok a => if more then .error (.fault .malformed) else .ok a

end Decoder

/-! ## Records -/

abbrev Members := List (String × Reading)

def Members.get? (ms : Members) (name : String) : Option Reading :=
  (ms.find? (·.1 == name)).map (·.2)

/-- How the fields of a record are decoded: from an object by name, from an array by place. -/
structure Shape (α : Type) where
  /-- The names of the fields with the check that each one's value has to pass where it stands. -/
  fields : List (String × (Nat → Reading → Except DecodeError Unit))
  /-- The record from the members that were read. -/
  ofMembers : Nat → Members → Except DecodeError α
  /-- The record from the elements from a given place on, and the elements and the place left. -/
  ofItems : String → Nat → Option Fault → Nat → List Reading →
    Except DecodeError (α × Nat × List Reading)

namespace Shape

def pure {α : Type} (a : α) : Shape α where
  fields := []
  ofMembers _ _ := .ok a
  ofItems _ _ _ place rs := .ok (a, place, rs)

/-- A field: its decoder, what it is if the object lacks it, and if the array ends before it. -/
def fieldWith {α : Type} (name : String) (d : Decoder α) (absent : Except DecodeError α)
    (short : Option α) : Shape α where
  fields := [(name, fun depth r => (d depth r).map fun _ => ())]
  ofMembers depth ms :=
    match ms.get? name with
    | some r => d depth r
    | none => absent
  ofItems expected depth stop place rs :=
    match rs with
    | r :: rest => do
      let a ← d depth r
      return (a, place + 1, rest)
    | [] => do
      Decoder.ending stop
      match short with
      | some a => return (a, place + 1, [])
      | none => .error (.wrongLength place expected)

def required {α : Type} (name : String) (d : Decoder α) : Shape α :=
  fieldWith name d (.error (.missingField name)) none

def withDefault {α : Type} (name : String) (d : Decoder α) (fallback : α) : Shape α :=
  fieldWith name d (.ok fallback) (some fallback)

/-- A field that may be null; an object may lack it, an array may not. -/
def nullable {α : Type} (name : String) (d : Decoder α) : Shape (Option α) :=
  fieldWith name (Decoder.nullable d) (.ok none) none

/-- The fields of a function's result, then those of its argument. -/
def seq {α β : Type} (f : Shape (α → β)) (a : Shape α) : Shape β where
  fields := f.fields ++ a.fields
  ofMembers depth ms := do
    let g ← f.ofMembers depth ms
    let x ← a.ofMembers depth ms
    return g x
  ofItems expected depth stop place rs := do
    let (g, place, rs) ← f.ofItems expected depth stop place rs
    let (x, place, rs) ← a.ofItems expected depth stop place rs
    return (g x, place, rs)

/-- One member of an object: a field is checked and kept, anything else is passed over. -/
def readMember (fields : List (String × (Nat → Reading → Except DecodeError Unit))) (depth : Nat)
    (ms : Members) (name : StringText) (r : Reading) : Except DecodeError Members := do
  let name ← Decoder.orFault name.value
  match fields.find? (·.1 == name) with
  | none =>
    Decoder.ending r.fault?
    return ms
  | some (_, check) =>
    if (ms.get? name).isSome then .error (.duplicateField name)
    else
      check depth r
      return ms ++ [(name, r)]

def readMembers (fields : List (String × (Nat → Reading → Except DecodeError Unit))) (depth : Nat)
    (stop : Option Fault) (ms : Members) :
    List (StringText × Reading) → Except DecodeError Members
  | [] => (Decoder.ending stop).map fun _ => ms
  | (name, r) :: rest => do
    let ms ← readMember fields depth ms name r
    readMembers fields depth stop ms rest

/-- A record, from an object or from an array; `name` is what error texts call it. -/
def decoder {α : Type} (name : String) (shape : Shape α) : Decoder α
  | depth, .object members stop => do
    let depth ← Decoder.enter depth
    let ms ← readMembers shape.fields depth stop [] members
    shape.ofMembers depth ms
  | depth, .array rs stop => do
    let depth ← Decoder.enter depth
    let expected := "struct " ++ name ++ " with " ++ Text.decimal shape.fields.length ++
      (if shape.fields.length = 1 then " element" else " elements")
    let (a, _, rest) ← shape.ofItems expected depth stop 0 rs
    match rest with
    | [] => (Decoder.ending stop).map fun _ => a
    | _ :: _ => .error (.fault .malformed)
  | depth, .nameless _ => do
    let _ ← Decoder.enter depth
    .error (.fault .malformed)
  | _, r => Decoder.mismatch ("struct " ++ name) r

end Shape

end BlocklistWatch.Json
