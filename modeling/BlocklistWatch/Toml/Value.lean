/-!
# TOML values

The values of the TOML format, as far as a reader of settings has to tell them apart.
-/

namespace BlocklistWatch.Toml

/-- A value. Fractional numbers and points in time are only known by kind. -/
inductive Value where
  | string (s : String)
  | integer (n : Int)
  | fraction
  | moment
  | bool (b : Bool)
  | array (items : List Value)
  | table (entries : List (String × Value))
deriving Repr, Inhabited

def entry? (entries : List (String × Value)) (name : String) : Option Value :=
  (entries.find? (·.1 == name)).map (·.2)

end BlocklistWatch.Toml
