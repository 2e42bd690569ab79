/-!
# Disks

Files by path, as far as a store and its reports need them: reading, writing, renaming, removing and
making directories. Any step may go wrong, and a disk remembers what it held before each step, so
that one can ask what would be found if everything stopped in between.

* `Disk.read` reads a file, `Disk.step` carries out an action.
* `Disk.past` is what the disk held before the actions, the last one first.
-/

namespace BlocklistWatch

inductive FileError where
  | notFound
  | isDirectory
  | notDirectory
  | alreadyExists
  | permissionDenied
deriving DecidableEq, Repr, Inhabited

def FileError.message : FileError → String
  | notFound => "No such file or directory (os error 2)"
  | isDirectory => "Is a directory (os error 21)"
  | notDirectory => "Not a directory (os error 20)"
  | alreadyExists => "File exists (os error 17)"
  | permissionDenied => "Permission denied (os error 13)"

inductive Entry where
  | file (content : String)
  | directory
deriving DecidableEq, Repr, Inhabited

abbrev Files := String → Option Entry

def Files.set (files : Files) (path : String) (entry : Option Entry) : Files :=
  fun p => if p = path then entry else files p

@[simp] theorem Files.set_same (files : Files) (path : String) (entry : Option Entry) :
    files.set path entry path = entry := by
  simp [Files.set]

theorem Files.set_other (files : Files) {path p : String} (entry : Option Entry) (h : p ≠ path) :
    files.set path entry p = files p := by
  simp [Files.set, h]

inductive FileAction where
  | write (path content : String)
  | rename (source target : String)
  | remove (path : String)
  /-- Makes a directory unless it is there already. -/
  | makeDirectory (path : String)
deriving DecidableEq, Repr, Inhabited

/-- A step that goes wrong from outside: the error, and what a write leaves of its text. -/
structure Mishap where
  error : FileError
  leaves : Option String
deriving DecidableEq, Repr, Inhabited

/-- Files, what they were before each action so far, and which actions go wrong from outside. -/
structure Disk where
  files : Files
  /-- The actions so far with the files before each, the last one first. -/
  past : List (FileAction × Files)
  /-- What goes wrong at the action of each number. -/
  mishaps : Nat → Option Mishap

namespace Disk

def ofFiles (files : Files) : Disk :=
  ⟨files, [], fun _ => none⟩

instance : Inhabited Disk := ⟨ofFiles fun _ => none⟩

def read (d : Disk) (path : String) : Except FileError String :=
  match d.files path with
  | some (.file content) => .ok content
  | some .directory => .error .isDirectory
  | none => .error .notFound

def perform (files : Files) : FileAction → Except FileError Files
  | .write path content =>
    match files path with
    | some .directory => .error .isDirectory
    | _ => .ok (files.set path (some (.file content)))
  | .rename source target =>
    match files source with
    | none => .error .notFound
    | some entry =>
      match files target with
      | some .directory => .error .isDirectory
      | _ => .ok ((files.set source none).set target (some entry))
  | .remove path =>
    match files path with
    | none => .error .notFound
    | some .directory => .error .isDirectory
    | some (.file _) => .ok (files.set path none)
  | .makeDirectory path =>
    match files path with
    | none => .ok (files.set path (some .directory))
    | some .directory => .ok files
    | some (.file _) => .error .alreadyExists

/-- What is left of the files when an action goes wrong from outside: only a write may leave a part
of its text behind. -/
def leftBy (files : Files) (action : FileAction) (m : Mishap) : Files :=
  match action, m.leaves with
  | .write path _, some part => files.set path (some (.file part))
  | _, _ => files

def step (d : Disk) (action : FileAction) : Except FileError Unit × Disk :=
  let past := (action, d.files) :: d.past
  match d.mishaps d.past.length with
  | some m => (.error m.error, { d with files := leftBy d.files action m, past := past })
  | none =>
    match perform d.files action with
    | .ok files => (.ok (), { d with files := files, past := past })
    | .error e => (.error e, { d with past := past })

def ofFile (path : String) (content : Option String) : Disk :=
  .ofFiles (Files.set (fun _ => none) path (content.map .file))

def put (d : Disk) (path : String) (entry : Option Entry) : Disk :=
  { d with files := d.files.set path entry }

def content? (d : Disk) (path : String) : Option String :=
  match d.files path with
  | some (.file content) => some content
  | _ => none

/-- The paths at which the actions so far may have left a file. -/
def touched (d : Disk) : List String :=
  d.past.filterMap fun
    | (.write path _, _) => some path
    | (.rename _ target, _) => some target
    | (.remove _, _) | (.makeDirectory _, _) => none

/-- Every state of the files from the one before the action of the given number until now, the
present one first. -/
def statesSince (d : Disk) (count : Nat) : List Files :=
  d.files :: (d.past.take (d.past.length - count)).map (·.2)

end Disk

def pathIn (dir name : String) : String :=
  if dir = "" then name
  else if dir.toList.getLast? = some '/' then dir ++ name
  else dir ++ "/" ++ name

end BlocklistWatch
