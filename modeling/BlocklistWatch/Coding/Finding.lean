import BlocklistWatch.Coding.Basic
import BlocklistWatch.Probe.Verdict

/-!
# JSON forms of findings

A finding as it is written down: status, detail and failure stand side by side, with the moment of
the look-up, and the failure is left out where there is none.

* `FindingRecord` is that record, `Finding.record` makes one of a finding.
* `FindingRecord.json` writes it, `FindingRecord.decoder` reads it.
-/

namespace BlocklistWatch

open Json (Value Decoder Shape)

structure FindingRecord where
  ip : Ipv4
  zone : String
  status : ProbeStatus
  detail : String
  failure : Option FailureKind
  moment : Moment
deriving DecidableEq, Repr

def Finding.record (f : Finding) (moment : Moment) : FindingRecord :=
  ⟨f.ip, f.zone, f.verdict.status, f.verdict.detail, f.verdict.failure, moment⟩

def FailureKind.choices : List (String × FailureKind) :=
  namedChoices tag all

def FailureKind.decoder : Decoder FailureKind :=
  .choice choices

def ProbeStatus.decoder : Decoder ProbeStatus :=
  .choice (namedChoices tag [listed, notListed, unknown])

def FindingRecord.json (f : FindingRecord) : Value :=
  let failure := match f.failure with
    | none => []
    | some kind => [("failure", Value.string kind.tag)]
  .object ([
    ("ip", f.ip.json),
    ("zone", .string f.zone),
    ("status", .string f.status.tag),
    ("detail", .string f.detail)] ++ failure ++ [("timestamp", f.moment.json)])

def FindingRecord.shape : Shape FindingRecord :=
  Shape.pure FindingRecord.mk
    |>.seq (.required "ip" Ipv4.decoder)
    |>.seq (.required "zone" .text)
    |>.seq (.required "status" ProbeStatus.decoder)
    |>.seq (.required "detail" .text)
    |>.seq (.withDefault "failure" (.nullable FailureKind.decoder) none)
    |>.seq (.required "timestamp" Moment.decoder)

def FindingRecord.decoder : Decoder FindingRecord :=
  shape.decoder "ProbeResult"

end BlocklistWatch
