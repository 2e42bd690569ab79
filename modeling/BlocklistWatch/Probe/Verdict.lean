import BlocklistWatch.Ipv4
import BlocklistWatch.Text.Affix
import BlocklistWatch.Text.Ascii
import BlocklistWatch.Text.Blank

/-!
# What an answer of a list means

A list answers from 127.0.0.0/8 about an address that it holds and says that the name does not exist
about one that it does not hold. Everything else leaves the question open, and then the reason
counts.

* `Outcome` is what a look-up came back with, `Verdict` what it means for one address on one list.
* `Verdict.ofOutcome` reads the one as the other, and `Finding` keeps it with the address and the
  list.
* `apexMissing` tells a name that does not exist because the list itself is gone.
-/

namespace BlocklistWatch

inductive FailureKind where
  /-- An address outside 127.0.0.0/8 came back. -/
  | invalidResponseRange
  /-- The name exists without an address. -/
  | invalidResponseType
  /-- The list's own zone does not exist. -/
  | nxdomainZone
  | timeout
  | unknownError
deriving DecidableEq, Repr, Inhabited

namespace FailureKind

def all : List FailureKind :=
  [invalidResponseRange, invalidResponseType, nxdomainZone, timeout, unknownError]

def tag : FailureKind → String
  | invalidResponseRange => "invalid_response_range"
  | invalidResponseType => "invalid_response_type"
  | nxdomainZone => "nxdomain_zone"
  | timeout => "timeout"
  | unknownError => "unknown_error"

theorem mem_all (k : FailureKind) : k ∈ all := by
  cases k <;> decide

end FailureKind

inductive ProbeStatus where
  | listed
  | notListed
  | unknown
deriving DecidableEq, Repr, Inhabited

namespace ProbeStatus

def tag : ProbeStatus → String
  | listed => "LISTED"
  | notListed => "NOT_LISTED"
  | unknown => "UNKNOWN"

def isDefinitive : ProbeStatus → Bool
  | unknown => false
  | _ => true

end ProbeStatus

inductive Outcome where
  | addresses (found : List Ipv4)
  | noData
  /-- The name does not exist, as the named zone says, if one is named. -/
  | noName (authority : Option String)
  | timeout
  | failed (reason : String)
deriving DecidableEq, Repr, Inhabited

inductive Verdict where
  | listed (response : Ipv4)
  | notListed
  | unknown (kind : FailureKind) (detail : String)
deriving DecidableEq, Repr, Inhabited

namespace Verdict

def status : Verdict → ProbeStatus
  | listed _ => .listed
  | notListed => .notListed
  | unknown _ _ => .unknown

/-- The reason for an open question; none for a definite answer. -/
def failure : Verdict → Option FailureKind
  | unknown kind _ => some kind
  | _ => none

def detail : Verdict → String
  | listed response => response.text
  | notListed => ""
  | unknown _ detail => detail

def unexplained (kind : FailureKind) : Verdict :=
  .unknown kind kind.tag

end Verdict

/-! ## Missing zones -/

/-- A name without outer blanks, then without trailing dots, in lower case. -/
def plainName (name : String) : List Char :=
  (Text.dropTrailing (· == '.') (Text.trimBlanks name.toList)).map Text.foldChar

/-- Whether the zone that says a name does not exist lies strictly above the list's zone, so that
the list's zone does not exist either. -/
def apexMissing (authority : Option String) (zone : String) : Bool :=
  match authority with
  | none => false
  | some authority =>
    let above := plainName authority
    let zone := plainName zone
    if above = zone ∨ ('.' :: zone) <:+ above then false
    else above.isEmpty || ('.' :: above).isSuffixOf zone

/-! ## Reading an outcome -/

def Verdict.ofOutcome (zone : String) : Outcome → Verdict
  | .addresses [] => .unexplained .invalidResponseType
  | .addresses (first :: _) =>
    if first.isLoopback then .listed first else .unknown .invalidResponseRange first.text
  | .noData => .unexplained .invalidResponseType
  | .noName authority =>
    if apexMissing authority zone then .unexplained .nxdomainZone else .notListed
  | .timeout => .unexplained .timeout
  | .failed reason => .unknown .unknownError reason

/-- What was found about an address at a zone. -/
structure Finding where
  ip : Ipv4
  zone : String
  verdict : Verdict
deriving DecidableEq, Repr, Inhabited

namespace Finding

def ofOutcome (ip : Ipv4) (zone : String) (o : Outcome) : Finding :=
  ⟨ip, zone, .ofOutcome zone o⟩

def unknown (ip : Ipv4) (zone : String) (kind : FailureKind) (detail : String) : Finding :=
  ⟨ip, zone, .unknown kind detail⟩

end Finding

end BlocklistWatch
