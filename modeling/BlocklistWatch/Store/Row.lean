import BlocklistWatch.Coding.State
import BlocklistWatch.Config.Settings

/-!
# Rows

An address as it is kept in the store: its text, its priorities, the stored text of the zones that
list it, and columns that belong to others and are carried along.

* `Row.state?` is what the row records, if its address can be read.
* `Row.update?` is the row after a transition, none if the row already holds its zones.
* `Row.json` and `Row.decoder` write and read the row.
-/

namespace BlocklistWatch

open Json (Value Decoder Reading StringText)

structure Row where
  id : UInt64
  ip : String
  priority : Option UInt8
  oldPriority : Option UInt8
  zoneText : Option String
  lastEvent : Option String
  /-- Columns that belong to others, in increasing order of their names. -/
  others : List (String × Value)
deriving Repr, Inhabited

namespace Row

def standardPriority : UInt8 := 100

def effectivePriority (r : Row) : UInt8 :=
  r.priority.getD standardPriority

def zones (r : Row) : ZoneSet :=
  .ofStored (r.zoneText.getD "")

def state? (r : Row) : Option IpState :=
  (Ipv4.parse? (Text.trim r.ip)).map fun address => {
    id := r.id
    address := address
    priority := r.effectivePriority
    backupPriority := r.oldPriority
    listedZones := r.zones
    lastEvent := r.lastEvent }

/-- The row after a transition of a given kind to the zones of the stored text `target`. -/
def change (r : Row) (kind : TransitionKind) (target : String) (policy : PriorityPolicy) : Row :=
  match kind with
  | .firstListing =>
    { r with
      priority := some policy.listed
      oldPriority := some (r.oldPriority.getD r.effectivePriority)
      zoneText := some target
      lastEvent := some ("new block from list(s) " ++ target) }
  | .recovery =>
    { r with
      priority := some (r.oldPriority.getD policy.fallback)
      oldPriority := none
      zoneText := some target
      lastEvent := some "block removed" }
  | .zoneChange =>
    { r with
      zoneText := some target
      lastEvent := some ("blocking list change: " ++ target) }

/-- The row after a transition; none if the row already holds the zones of the transition. -/
def update? (r : Row) (t : Transition) (policy : PriorityPolicy) : Option Row :=
  let target := (ZoneSet.ofList t.listedZones).stored
  if r.zones.stored = target then none else some (r.change t.kind target policy)

theorem change_keeps (r : Row) (kind : TransitionKind) (target : String)
    (policy : PriorityPolicy) :
    (r.change kind target policy).id = r.id ∧ (r.change kind target policy).ip = r.ip ∧
      (r.change kind target policy).others = r.others := by
  cases kind <;> exact ⟨rfl, rfl, rfl⟩

/-! ## The JSON form -/

def json (r : Row) : Value :=
  .object ([
    ("id", wordJson r.id),
    ("ip", .string r.ip),
    ("priority", .optional byteJson r.priority),
    ("old_priority", .optional byteJson r.oldPriority),
    ("blocking_lists", .optional .string r.zoneText),
    ("last_event", .optional .string r.lastEvent)] ++ r.others)

/-- The columns that were read, each at most once, and the columns of others. -/
structure Columns where
  id : Option UInt64
  ip : Option String
  priority : Option (Option UInt8)
  oldPriority : Option (Option UInt8)
  zoneText : Option (Option String)
  lastEvent : Option (Option String)
  others : List (String × Value)

def Columns.none : Columns :=
  ⟨.none, .none, .none, .none, .none, .none, []⟩

def once {α : Type} (name : String) (old : Option α) (d : Decoder α) (depth : Nat) (r : Reading) :
    Except Json.DecodeError (Option α) :=
  match old with
  | some _ => .error (.duplicateField name)
  | none => (d depth r).map some

def Columns.read (c : Columns) (depth : Nat) (name : String) (r : Reading) :
    Except Json.DecodeError Columns :=
  match name with
  | "id" => do return { c with id := ← once name c.id wordDecoder depth r }
  | "ip" => do return { c with ip := ← once name c.ip .text depth r }
  | "priority" => do
    return { c with priority := ← once name c.priority (.nullable byteDecoder) depth r }
  | "old_priority" => do
    return { c with oldPriority := ← once name c.oldPriority (.nullable byteDecoder) depth r }
  | "blocking_lists" => do
    return { c with zoneText := ← once name c.zoneText (.nullable .text) depth r }
  | "last_event" => do
    return { c with lastEvent := ← once name c.lastEvent (.nullable .text) depth r }
  | _ => do
    let v ← Decoder.value depth r
    return { c with others := Json.insertMember name v c.others }

def Columns.readAll (c : Columns) (depth : Nat) (stop : Option Json.Fault) :
    List (StringText × Reading) → Except Json.DecodeError Columns
  | [] => (Decoder.ending stop).map fun _ => c
  | (name, r) :: rest => do
    let name ← Decoder.orFault name.value
    let c ← c.read depth name r
    c.readAll depth stop rest

def Columns.row (c : Columns) : Except Json.DecodeError Row :=
  match c.id, c.ip with
  | .none, _ => .error (.missingField "id")
  | some _, .none => .error (.missingField "ip")
  | some id, some ip => .ok {
      id := id
      ip := ip
      priority := c.priority.join
      oldPriority := c.oldPriority.join
      zoneText := c.zoneText.join
      lastEvent := c.lastEvent.join
      others := c.others }

/-- Decodes a row; columns that it does not know are those of others. -/
def decoder : Decoder Row
  | depth, .object members stop => do
    let c ← Columns.none.readAll (← Decoder.enter depth) stop members
    c.row
  | _, .nameless _ => .error (.fault .malformed)
  | _, r => Decoder.mismatch "struct IpRow" r

end Row

end BlocklistWatch
