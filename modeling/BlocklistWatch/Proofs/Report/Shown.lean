import Mathlib.Algebra.GroupWithZero.Nat
import Mathlib.Data.List.Forall2
import BlocklistWatch.Proofs.Json.Building
import BlocklistWatch.Report.Health

/-!
# What the summary shows

An entry of the JSON summary shows a few numbers of a zone. They stand in the value that is written,
and they are found again in its text by anyone who reads it: the text is read without a fault, and
the tree that comes out has the same numbers at the same places.

* `ShownZone` is what an entry shows of a zone, `ShownHealth` what the whole summary shows.
* `ShownZone.In` and `ShownHealth.In` are about the value, `ShownZone.ReadIn` and
  `ShownHealth.ReadIn` about a tree that was read; `ShownHealth.ReadFrom` is about a text.
* `ShownHealth.readFrom_pretty`: what a value shows is read from its text.
-/

namespace BlocklistWatch

open Json (Reading Value)

namespace Json

/-! ## Looking up a value -/

/-- What an object holds under a name. -/
def Value.member? (name : String) : Value → Option Value
  | .object members => (members.find? (·.1 == name)).map (·.2)
  | _ => none

namespace Reading

/-! ## Looking up what was read -/

/-- What a complete object holds under a name. -/
def member? (name : String) : Reading → Option Reading
  | .object members none => (members.find? (·.1.value.toOption == some name)).map (·.2)
  | _ => none

def text? : Reading → Option String
  | .string s => s.value.toOption
  | _ => none

/-- A number that was written with digits only. -/
def count? : Reading → Option Nat
  | .number ⟨false, digits, [], none⟩ => some (Text.digitsValue digits)
  | _ => none

def items? : Reading → Option (List Reading)
  | .array items none => some items
  | _ => none

/-- The numbers of a complete object by their names, in the order in which they stand there. -/
def counts? : Reading → Option (List (String × Nat))
  | .object members none =>
    members.mapM fun m => m.1.value.toOption.bind fun name => m.2.count?.map fun n => (name, n)
  | _ => none

theorem member?_reading (v : Value) (name : String) :
    v.reading.member? name = (v.member? name).map Value.reading := by
  cases v with
  | object members =>
    have hname : ∀ m : String × Value,
        ((StringText.ofString m.1).value.toOption == some name) = (m.1 == name) := fun m => by
      rw [StringText.value_ofString]
      rfl
    rw [Value.reading, Value.memberReadings_eq_map, member?, Value.member?, List.find?_map]
    simp only [Function.comp_def, hname, Option.map_map]
  | _ => rfl

/-- What is wanted of a member is read from the tree, if it is read from the tree of the member. -/
theorem bind_member?_reading {α : Type} {f : Reading → Option α} {v w : Value} {name : String}
    {a : α} (hmember : v.member? name = some w) (hread : f w.reading = some a) :
    (v.reading.member? name).bind f = some a := by
  rw [member?_reading, hmember]
  exact hread

theorem text?_reading (s : String) : (Value.string s).reading.text? = some s := by
  rw [Value.reading, text?, StringText.value_ofString]
  rfl

theorem count?_reading (n : Nat) : (Value.nat n).reading.count? = some n :=
  congrArg some (Text.digitsValue_decimalDigits n)

theorem items?_reading (items : List Value) :
    (Value.array items).reading.items? = some (items.map Value.reading) := by
  rw [Value.reading, Value.itemReadings_eq_map]
  rfl

theorem counts?_reading (counts : List (String × Nat)) :
    (Value.object (counts.map fun c => (c.1, .nat c.2))).reading.counts? = some counts := by
  rw [Value.reading, Value.memberReadings_eq_map, counts?]
  induction counts with
  | nil => rfl
  | cons c counts ih =>
    rw [List.map_cons, List.map_cons, List.mapM_cons, ih, StringText.value_ofString,
      count?_reading]
    rfl

end Reading

end Json

/-! ## One zone -/

structure ShownZone where
  zone : String
  status : ZoneStatus
  performed : Nat
  successful : Nat
  failed : Nat
  /-- The failures by the names of their kinds, in the order in which they are shown. -/
  kinds : List (String × Nat)

namespace ShownZone

/-- An entry of the summary that shows this of a zone. -/
structure In (entry : Value) (z : ShownZone) : Prop where
  zone : entry.member? "zone" = some (.string z.zone)
  status : entry.member? "status" = some (.string z.status.tag)
  performed : entry.member? "checks_performed" = some (.nat z.performed)
  successful : entry.member? "successful_checks" = some (.nat z.successful)
  failed : entry.member? "failed_checks" = some (.nat z.failed)
  kinds : entry.member? "failure_types" =
    some (.object (z.kinds.map fun kind => (kind.1, .nat kind.2)))

/-- An entry that was read and shows this of a zone. -/
structure ReadIn (entry : Reading) (z : ShownZone) : Prop where
  zone : (entry.member? "zone").bind (·.text?) = some z.zone
  status : (entry.member? "status").bind (·.text?) = some z.status.tag
  performed : (entry.member? "checks_performed").bind (·.count?) = some z.performed
  successful : (entry.member? "successful_checks").bind (·.count?) = some z.successful
  failed : (entry.member? "failed_checks").bind (·.count?) = some z.failed
  kinds : (entry.member? "failure_types").bind (·.counts?) = some z.kinds

theorem In.readIn {entry : Value} {z : ShownZone} (h : z.In entry) : z.ReadIn entry.reading where
  zone := Reading.bind_member?_reading h.zone (Reading.text?_reading _)
  status := Reading.bind_member?_reading h.status (Reading.text?_reading _)
  performed := Reading.bind_member?_reading h.performed (Reading.count?_reading _)
  successful := Reading.bind_member?_reading h.successful (Reading.count?_reading _)
  failed := Reading.bind_member?_reading h.failed (Reading.count?_reading _)
  kinds := Reading.bind_member?_reading h.kinds (Reading.counts?_reading _)

/-- The numbers fit together, the kinds of failure are in increasing order of their names, and the
zone is called broken if it was checked and every check failed. -/
structure Consistent (z : ShownZone) : Prop where
  performed : z.performed = z.successful + z.failed
  failed : z.failed = (z.kinds.map (·.2)).sum
  kinds : z.kinds.Pairwise fun k l => k.1 < l.1
  broken : z.status = .broken ↔ 0 < z.performed ∧ z.failed = z.performed

end ShownZone

/-! ## All zones -/

structure ShownHealth where
  total : Nat
  broken : Nat
  zones : List ShownZone

namespace ShownHealth

variable {report : Value} {h : ShownHealth}

/-- A summary that shows this of all zones. -/
structure In (report : Value) (h : ShownHealth) : Prop where
  total : (report.member? "execution_summary").bind (·.member? "total_dnsbls") = some (.nat h.total)
  broken :
    (report.member? "execution_summary").bind (·.member? "broken_dnsbls") = some (.nat h.broken)
  zones : ∃ entries, report.member? "dnsbl_health" = some (.array entries) ∧
    List.Forall₂ ShownZone.In entries h.zones

/-- A summary that was read and shows this of all zones. -/
structure ReadIn (report : Reading) (h : ShownHealth) : Prop where
  total : ((report.member? "execution_summary").bind (·.member? "total_dnsbls")).bind (·.count?) =
    some h.total
  broken :
    ((report.member? "execution_summary").bind (·.member? "broken_dnsbls")).bind (·.count?) =
      some h.broken
  zones : ∃ entries, (report.member? "dnsbl_health").bind (·.items?) = some entries ∧
    List.Forall₂ ShownZone.ReadIn entries h.zones

/-- A text that is read as a whole and without a fault, as a summary that shows this. -/
def ReadFrom (text : String) (h : ShownHealth) : Prop :=
  ∃ r, Reading.ofString text = (r, false) ∧ r.fault? = none ∧ h.ReadIn r

/-- A number two names deep is found in the tree where it is in the value. -/
theorem count?_of_inner {outer inner : String} {n : Nat}
    (h : (report.member? outer).bind (·.member? inner) = some (.nat n)) :
    ((report.reading.member? outer).bind (·.member? inner)).bind (·.count?) = some n := by
  obtain ⟨v, houter, hinner⟩ := Option.bind_eq_some_iff.1 h
  rw [Reading.member?_reading, houter]
  exact Reading.bind_member?_reading hinner (Reading.count?_reading n)

theorem In.readIn (hin : h.In report) : h.ReadIn report.reading := by
  obtain ⟨htotal, hbroken, entries, hentries, hzones⟩ := hin
  refine ⟨count?_of_inner htotal, count?_of_inner hbroken, entries.map Value.reading,
    Reading.bind_member?_reading hentries (Reading.items?_reading entries), ?_⟩
  rw [List.forall₂_map_left_iff]
  exact hzones.imp fun _ _ hzone => hzone.readIn

theorem readFrom_pretty (hin : h.In report) : h.ReadFrom report.pretty :=
  ⟨report.reading, Reading.ofString_pretty report, Reading.fault?_reading report, hin.readIn⟩

end ShownHealth

end BlocklistWatch
