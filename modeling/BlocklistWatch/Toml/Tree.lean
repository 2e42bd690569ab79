import BlocklistWatch.Toml.Value

/-!
# Tables in the making

The tables of a document while it is read. Where a table comes from decides what may still be added
to it: a table has one header, and dotted keys only reach into tables that dotted keys have made.

* `Branch.addEntry` adds a key with its value, `Branch.addSection` a table with a header.
* `Branch.closed` is the finished table.
-/

namespace BlocklistWatch.Toml

inductive Origin where
  /-- It has a header of its own, or is the document itself. -/
  | header
  /-- It stands on the path of another header. -/
  | path
  /-- It was made by a dotted key. -/
  | dots
deriving DecidableEq, Repr

inductive Node where
  | value (v : Value)
  | table (origin : Origin) (entries : List (String × Node))
  | tables (items : List (List (String × Node)))
deriving Repr

abbrev Branch := List (String × Node)

namespace Branch

def get? (b : Branch) (name : String) : Option Node :=
  (b.find? (·.1 == name)).map (·.2)

def put (b : Branch) (name : String) (node : Node) : Branch :=
  match b with
  | [] => [(name, node)]
  | (n, old) :: rest => if n = name then (n, node) :: rest else (n, old) :: put rest name node

/-- Changes the table at the end of a path; tables that are missing on the way are made with the
given origin. Dotted keys do not go through tables with a header, and of several tables under one
name the last is meant. -/
def alter (made : Origin) (change : Origin → Branch → Option Branch) (origin : Origin)
    (b : Branch) : List String → Option Branch
  | [] => change origin b
  | name :: path =>
    match b.get? name with
    | none => do
      let inner ← alter made change made [] path
      return b.put name (.table made inner)
    | some (.table own inner) =>
      if made = .dots ∧ own = .header then none
      else do
        let inner ← alter made change own inner path
        return b.put name (.table own inner)
    | some (.tables items) => do
      let last ← items.getLast?
      let last ← alter made change .header last path
      return b.put name (.tables (items.dropLast ++ [last]))
    | some (.value _) => none

/-- Adds an entry under a key of several parts. -/
def addEntry (b : Branch) (path : List String) (name : String) (v : Value) : Option Branch :=
  let add (origin : Origin) (b : Branch) : Option Branch :=
    if (origin = .dots) = path.isEmpty ∨ (b.get? name).isSome then none
    else some (b.put name (.value v))
  alter .dots add .header b path

/-- A key, by all its parts but the last and the last one, with its value. -/
abbrev Entry := List String × String × Value

def addEntries (b : Branch) (entries : List Entry) : Option Branch :=
  entries.foldlM (fun b (path, name, v) => b.addEntry path name v) b

/-- Adds the table of a header, or one more of those of a repeated header. -/
def addSection (b : Branch) (repeated : Bool) (path : List String) (name : String)
    (entries : List Entry) : Option Branch :=
  let add (_ : Origin) (b : Branch) : Option Branch :=
    if repeated then
      match b.get? name with
      | none => do return b.put name (.tables [← addEntries [] entries])
      | some (.tables items) => do
        return b.put name (.tables (items ++ [← addEntries [] entries]))
      | some _ => none
    else
      match b.get? name with
      | none => do return b.put name (.table .header (← addEntries [] entries))
      | some (.table .path inner) => do
        return b.put name (.table .header (← addEntries inner entries))
      | some _ => none
  alter .path add .header b path

mutual

def nodeValue : Node → Value
  | .value v => v
  | .table _ entries => .table (closed entries)
  | .tables items => .array (tableValues items)

def closed : Branch → List (String × Value)
  | [] => []
  | (name, node) :: rest => (name, nodeValue node) :: closed rest

def tableValues : List (List (String × Node)) → List Value
  | [] => []
  | entries :: rest => .table (closed entries) :: tableValues rest

end

end Branch

end BlocklistWatch.Toml
