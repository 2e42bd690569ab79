import BlocklistWatch.Store.Disk
import BlocklistWatch.Store.Row

/-!
# Rows in a file

All rows are kept in one JSON file and in memory. A change is written to a file beside it, which then
takes its place, so that at any moment the file is whole.

* `FileStore.open?` reads the rows, `FileStore.states` is what they record.
* `FileStore.apply` changes the row of a state; if that cannot be written the row is put back.
-/

namespace BlocklistWatch

open Json (Decoder)

inductive StoreError where
  | file (path : String) (e : FileError)
  | notRows (e : Json.DecodeError)
  | noRow (id : UInt64)
deriving Repr

def StoreError.message : StoreError → String
  | .file path e => "store I/O error on " ++ path ++ ": " ++ e.message
  | .notRows e => "store JSON error: " ++ e.message?.getD "malformed JSON"
  | .noRow id => "no IP row with id " ++ Text.decimal id.toNat

/-! ## Rows as text -/

def rowsText (rows : List Row) : String :=
  (Json.Value.array (rows.map (·.json))).pretty

/-- Reads the rows that a text holds, in increasing order of their numbers. -/
def readRows (s : String) : Except Json.DecodeError (List Row) :=
  ((Decoder.list Row.decoder).run s).map fun rows => rows.mergeSort fun a b => decide (a.id ≤ b.id)

/-- What some rows record, those whose address cannot be read left out. -/
def rowStates (rows : List Row) : List IpState :=
  rows.filterMap (·.state?)

def findRow? (rows : List Row) (id : UInt64) : Option Row :=
  rows.find? (·.id == id)

/-- The rows with another one in place of the first one of its number. -/
def replaceRow (row : Row) : List Row → List Row
  | [] => []
  | r :: rows => if r.id = row.id then row :: rows else r :: replaceRow row rows

/-! ## The store -/

structure FileStore where
  path : String
  rows : List Row
deriving Inhabited

namespace FileStore

def open? (disk : Disk) (path : String) : Except StoreError FileStore :=
  match disk.read path with
  | .error e => .error (.file path e)
  | .ok content =>
    match readRows content with
    | .error e => .error (.notRows e)
    | .ok rows => .ok ⟨path, rows⟩

/-- The file that is written before it takes the place of the store's file. -/
def draftPath (path : String) : String :=
  path ++ ".tmp"

/-- Writes rows to the file of a path; what was written beside it is removed if it cannot take the
place of the file. -/
def save (path : String) (rows : List Row) (disk : Disk) : Except StoreError Unit × Disk :=
  match disk.step (.write (draftPath path) (rowsText rows)) with
  | (.error e, disk) => (.error (.file path e), disk)
  | (.ok (), disk) =>
    match disk.step (.rename (draftPath path) path) with
    | (.ok (), disk) => (.ok (), disk)
    | (.error e, disk) =>
      let (_, disk) := disk.step (.remove (draftPath path))
      (.error (.file path e), disk)

def states (s : FileStore) : List IpState :=
  rowStates s.rows

/-- Changes the row of a state by a transition; false if the row holds its zones already. The row is
changed in memory first and put back if the rows cannot be written. -/
def apply (s : FileStore) (disk : Disk) (state : IpState) (t : Transition)
    (policy : PriorityPolicy) : Except StoreError Bool × FileStore × Disk :=
  match findRow? s.rows state.id with
  | none => (.error (.noRow state.id), s, disk)
  | some row =>
    match row.update? t policy with
    | none => (.ok false, s, disk)
    | some changed =>
      let s := { s with rows := replaceRow changed s.rows }
      match save s.path s.rows disk with
      | (.ok (), disk) => (.ok true, s, disk)
      | (.error e, disk) => (.error e, { s with rows := replaceRow row s.rows }, disk)

end FileStore

end BlocklistWatch
