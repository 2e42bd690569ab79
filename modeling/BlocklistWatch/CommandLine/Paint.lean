import BlocklistWatch.Config.Environment

/-!
# Painted text

Text for a terminal: colours and weights as control sequences, and columns of equal width.

* `Paint.text` paints a text if colours are wanted.
* `wantsColor` decides that from the environment.
-/

namespace BlocklistWatch

inductive Color where
  | red
  | green
  | yellow
  | cyan
deriving DecidableEq, Repr

def Color.code : Color → String
  | red => "31"
  | green => "32"
  | yellow => "33"
  | cyan => "36"

structure Paint where
  bold : Bool
  dimmed : Bool
  color : Option Color
deriving DecidableEq, Repr

namespace Paint

def of (c : Color) : Paint := ⟨false, false, some c⟩

def boldOf (c : Color) : Paint := ⟨true, false, some c⟩

def strong : Paint := ⟨true, false, none⟩

def faint : Paint := ⟨false, true, none⟩

def codes (p : Paint) : List String :=
  (if p.bold then ["1"] else []) ++ (if p.dimmed then ["2"] else []) ++
    (p.color.map (·.code)).toList

def text (colors : Bool) (p : Paint) (s : String) : String :=
  if colors then "\x1b[" ++ ";".intercalate p.codes ++ "m" ++ s ++ "\x1b[0m" else s

end Paint

def padded (width : Nat) (s : String) : String :=
  s ++ String.ofList (List.replicate (width - s.length) ' ')

/-- Whether a variable is set to something else than 0, if it is set. -/
def flagOf? (env : Environment) (key : String) : Option Bool :=
  (env key).map (· != "0")

/-- Whether colours are wanted: they may be forced, forbidden, or left to whether the output is a
terminal. -/
def wantsColor (env : Environment) (isTerminal : Bool) : Bool :=
  if flagOf? env "CLICOLOR_FORCE" = some true then true
  else if (flagOf? env "NO_COLOR").isSome then false
  else (flagOf? env "CLICOLOR").getD true && isTerminal

end BlocklistWatch
