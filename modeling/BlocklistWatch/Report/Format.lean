import BlocklistWatch.Coding.Basic
import BlocklistWatch.Yaml.Document

/-!
# Output formats

A result is shown as coloured text, as JSON or as YAML.

* `OutputFormat.parse` reads the name of a format, `OutputFormat.render` shows a value in it.
-/

namespace BlocklistWatch

open Json (Value Decoder)

inductive OutputFormat where
  | text
  | json
  | yaml
deriving DecidableEq, Repr, Inhabited

namespace OutputFormat

def tag : OutputFormat → String
  | text => "pretty"
  | json => "json"
  | yaml => "yaml"

/-- The format of a name in any case; some formats have a second name. Letters beyond ASCII do not
turn into ASCII letters that occur in these names when their case changes. -/
def parse (name : String) : Except String OutputFormat :=
  let folded := Text.foldCase name
  if folded = "pretty" ∨ folded = "text" then .ok text
  else if folded = "json" then .ok json
  else if folded = "yaml" ∨ folded = "yml" then .ok yaml
  else .error ("Unknown output format: " ++ name ++ "\nValid formats: pretty, json, yaml")

/-- A value in the format; text is not the business of the format. -/
def render (format : OutputFormat) (v : Value) : Option String :=
  match format with
  | text => none
  | json => some v.pretty
  | yaml => some (Yaml.render v)

def decoder : Decoder OutputFormat :=
  .choice (namedChoices tag [text, json, yaml])

end OutputFormat

end BlocklistWatch
