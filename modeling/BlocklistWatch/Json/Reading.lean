import BlocklistWatch.Json.Token

/-!
# Reading JSON texts

A text is read as far as it goes: what comes out is the tree of what was there, with the faults at
their places. Which fault counts depends on what is wanted of the text, and is decided later, in
the order of the text.

* `Reading.ofTokens` builds the tree, `Reading.ofString` reads a text.
* `Reading.fault?` is the first fault of a tree that nothing is wanted of.
-/

namespace BlocklistWatch.Json

inductive Reading where
  | null
  | bool (b : Bool)
  | number (n : NumberText)
  | badNumber (f : Fault)
  | badLiteral (f : Fault)
  | string (s : StringText)
  /-- The elements of an array, and the fault in place of its next comma or its end. -/
  | array (items : List Reading) (stop : Option Fault)
  /-- The members of an object, and the fault in place of its next comma or its end; a further name
  that cannot be read is a member with a faulty name. -/
  | object (members : List (StringText × Reading)) (stop : Option Fault)
  /-- An object whose first name is not a string, and what stands there instead. -/
  | nameless (found : Reading)
  | missing (f : Fault)
deriving Repr, Inhabited

namespace Reading

inductive Frame where
  /-- An array with its elements so far, in opposite order. -/
  | array (items : List Reading)
  /-- An object with its members so far, in opposite order, and the name of the next one. -/
  | object (members : List (StringText × Reading)) (name : StringText)

inductive Phase where
  | value
  | firstItem
  | firstName
  /-- The name of a further member, after those given in opposite order. -/
  | name (members : List (StringText × Reading))
  | colon (members : List (StringText × Reading)) (name : StringText)
  | after (r : Reading)

/-- The whole tree when reading stops inside a value. -/
def stopIn (f : Fault) : List Frame → Reading → Reading
  | [], r => r
  | .array items :: outer, r => stopIn f outer (.array (items.reverse ++ [r]) (some f))
  | .object members name :: outer, r =>
    stopIn f outer (.object (members.reverse ++ [(name, r)]) (some f))

def badMember (f : Fault) : StringText × Reading :=
  (⟨[], some f⟩, .missing f)

def stopAt (f : Fault) (frames : List Frame) : Phase → Reading
  | .value => stopIn f frames (.missing f)
  | .firstItem => stopIn f frames (.array [] (some f))
  | .firstName => stopIn f frames (.object [] (some f))
  | .name members => stopIn f frames (.object (members.reverse ++ [badMember f]) (some f))
  | .colon members name =>
    stopIn f frames (.object (members.reverse ++ [(name, .missing f)]) (some f))
  | .after r =>
    match frames with
    | [] => r
    | .array items :: outer => stopIn f outer (.array (items.reverse ++ [r]) (some f))
    | .object members name :: outer =>
      stopIn f outer (.object (members.reverse ++ [(name, r)]) (some f))

def ofToken : Token → Reading
  | .null => .null
  | .bool b => .bool b
  | .number n => .number n
  | .badNumber f => .badNumber f
  | .badLiteral f => .badLiteral f
  | .string s => .string s
  | .openBracket => .array [] none
  | .openBrace => .object [] none
  | .closeBrace | .closeBracket | .colon | .comma | .junk => .missing .malformed

def startValue (frames : List Frame) (t : Token) :
    (List Frame × Phase) ⊕ Reading :=
  match t with
  | .openBracket => .inl (frames, .firstItem)
  | .openBrace => .inl (frames, .firstName)
  | .null | .bool _ | .number _ => .inl (frames, .after (ofToken t))
  | .string s =>
    match s.fault with
    | none => .inl (frames, .after (.string s))
    | some f => .inr (stopIn f frames (.string s))
  | .badNumber f => .inr (stopIn f frames (.badNumber f))
  | .badLiteral f => .inr (stopIn f frames (.badLiteral f))
  | .closeBrace | .closeBracket | .colon | .comma | .junk =>
    .inr (stopIn .malformed frames (.missing .malformed))

def startName (frames : List Frame) (members : List (StringText × Reading)) (t : Token) :
    (List Frame × Phase) ⊕ Reading :=
  match t with
  | .string s =>
    match s.fault with
    | none => .inl (frames, .colon members s)
    | some f => .inr (stopIn f frames (.object (members.reverse ++ [(s, .missing f)]) (some f)))
  | _ => .inr (stopAt .malformed frames (.name members))

/-- One token: where reading goes on, or the whole tree if it stops here. -/
def step (frames : List Frame) (phase : Phase) (t : Token) : (List Frame × Phase) ⊕ Reading :=
  match phase with
  | .value => startValue frames t
  | .firstItem =>
    match t with
    | .closeBracket => .inl (frames, .after (.array [] none))
    | t => startValue (.array [] :: frames) t
  | .firstName =>
    match t with
    | .closeBrace => .inl (frames, .after (.object [] none))
    | .string _ => startName frames [] t
    | t => .inr (stopIn .malformed frames (.nameless (ofToken t)))
  | .name members => startName frames members t
  | .colon members name =>
    match t with
    | .colon => .inl (.object members name :: frames, .value)
    | _ => .inr (stopAt .malformed frames (.colon members name))
  | .after r =>
    match frames with
    | [] => .inr r
    | .array items :: outer =>
      match t with
      | .comma => .inl (.array (r :: items) :: outer, .value)
      | .closeBracket => .inl (outer, .after (.array (r :: items).reverse none))
      | _ => .inr (stopAt .malformed frames phase)
    | .object members name :: outer =>
      match t with
      | .comma => .inl (outer, .name ((name, r) :: members))
      | .closeBrace => .inl (outer, .after (.object ((name, r) :: members).reverse none))
      | _ => .inr (stopAt .malformed frames phase)

def build (frames : List Frame) (phase : Phase) : List Token → Reading
  | [] => stopAt .cut frames phase
  | t :: ts =>
    match step frames phase t with
    | .inl (frames, phase) => build frames phase ts
    | .inr r => r

/-- Whether a token is left over after a complete value. -/
def overrun (frames : List Frame) (phase : Phase) : List Token → Bool
  | [] => false
  | t :: ts =>
    match frames, phase with
    | [], .after _ => true
    | _, _ =>
      match step frames phase t with
      | .inl (frames, phase) => overrun frames phase ts
      | .inr _ => false

def ofTokens (ts : List Token) : Reading × Bool :=
  (build [] .value ts, overrun [] .value ts)

def ofString (s : String) : Reading × Bool :=
  ofTokens (Token.scan s.toList)

/-! ## Faults in what nothing is wanted of -/

mutual

def fault? : Reading → Option Fault
  | .null | .bool _ | .number _ => none
  | .badNumber _ => some .malformed
  | .badLiteral f => some f
  | .string s => s.fault
  | .array items stop => itemsFault? stop items
  | .object members stop => membersFault? stop members
  | .nameless _ => some .malformed
  | .missing f => some f

def itemsFault? (stop : Option Fault) : List Reading → Option Fault
  | [] => stop
  | r :: rs =>
    match fault? r with
    | some f => some f
    | none => itemsFault? stop rs

def membersFault? (stop : Option Fault) : List (StringText × Reading) → Option Fault
  | [] => stop
  | (name, r) :: ms =>
    match name.fault with
    | some f => some f
    | none =>
      match fault? r with
      | some f => some f
      | none => membersFault? stop ms

end

end Reading

end BlocklistWatch.Json
