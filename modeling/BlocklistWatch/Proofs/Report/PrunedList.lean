import BlocklistWatch.Proofs.Config.Normalized
import BlocklistWatch.Proofs.Report.Agreement
import BlocklistWatch.Proofs.Yaml.ListDocument
import BlocklistWatch.Proofs.Zone.QueryName

/-!
# The list of the zones to keep

The list is a document under a header of comments. The names in the document are quoted where they
have to be, so it is read back whatever they are. The names in the header are not, and a name in
form may hold a line break. Then the header takes more lines than it should, and what comes after
the break is no comment any more.

* `PrunedZones.exists_commented_iff`: when the header is three lines of comments.
* `PrunedZones.read?_document` and `PrunedZones.read?_report`: what the list is read as, without its
  header and with it.
* `HealthTracker.pruned_report_commented` is the list of a tracker with any history.
* `HealthTracker.pruned_report_spilled`: settings that pass the check and a header of four lines.
-/

namespace BlocklistWatch

open Yaml (isBreak Trimmed)
open Yaml.TextList (commented eq_of_commented_eq isReadable read? read?_commented)

/-! ## Moments -/

/-- The characters of a written moment. -/
def Time.isClockChar (c : Char) : Bool :=
  Text.isDigit c || ['-', '+', 'T', ':', 'Z'].contains c

namespace Time

theorem isClockChar_decimalPadded (width n : Nat) :
    ∀ c ∈ (Text.decimalPadded width n).toList, isClockChar c = true := by
  have hzero : isClockChar '0' = true := by decide
  intro c hc
  rw [Text.decimalPadded, String.toList_ofList, Text.padZeros, List.mem_append] at hc
  rcases hc with hc | hc
  · rw [List.eq_of_mem_replicate hc]
    exact hzero
  · rw [isClockChar, Text.isDigit_of_mem_decimalDigits hc]
    rfl

theorem isClockChar_yearText (year : Int) : ∀ c ∈ (yearText year).toList, isClockChar c = true := by
  unfold yearText
  split
  · exact isClockChar_decimalPadded 4 _
  · rw [String.toList_append, List.forall_mem_append]
    refine ⟨?_, isClockChar_decimalPadded 4 _⟩
    split
    · exact List.all_eq_true.1 (by decide)
    · exact List.all_eq_true.1 (by decide)

theorem isClockChar_textSeconds (m : Moment) :
    ∀ c ∈ m.textSeconds.toList, isClockChar c = true := by
  have hdash : ∀ c ∈ "-".toList, isClockChar c = true := List.all_eq_true.1 (by decide)
  have hletter : ∀ c ∈ "T".toList, isClockChar c = true := List.all_eq_true.1 (by decide)
  have hcolon : ∀ c ∈ ":".toList, isClockChar c = true := List.all_eq_true.1 (by decide)
  have hzone : ∀ c ∈ "Z".toList, isClockChar c = true := List.all_eq_true.1 (by decide)
  have hyear := isClockChar_yearText
  have htwo := isClockChar_decimalPadded 2
  simp only [Moment.textSeconds, dateTimeText, String.toList_append, List.forall_mem_append]
  exact ⟨⟨⟨⟨⟨⟨⟨⟨⟨⟨⟨hyear _, hdash⟩, htwo _⟩, hdash⟩, htwo _⟩, hletter⟩, htwo _⟩, hcolon⟩, htwo _⟩,
    hcolon⟩, htwo _⟩, hzone⟩

theorem of_isClockChar {c : Char} (h : isClockChar c = true) :
    isBreak c = false ∧ isReadable c = true := by
  have hmarks : ['-', '+', 'T', ':', 'Z'].all (fun c => !isBreak c && isReadable c) = true := by
    decide
  rw [isClockChar, Bool.or_eq_true] at h
  rcases h with hdigit | hmark
  · refine ⟨Yaml.isBreak_of_not_isBlank (Text.isBlank_of_isDigit hdigit), ?_⟩
    simp only [Text.isDigit, Bool.and_eq_true, decide_eq_true_eq, Char.le_def,
      UInt32.le_iff_toNat_le] at hdigit
    have hlow : 48 ≤ c.toNat := hdigit.1
    have hhigh : c.toNat ≤ 57 := hdigit.2
    have hascii : 0x20 ≤ c.toNat ∧ c.toNat ≤ 0x7E := by omega
    simp [isReadable, hascii]
  · simpa using List.all_eq_true.1 hmarks c (by simpa using hmark)

end Time

/-! ## The header -/

theorem forall_mem_intercalate {good : Char → Bool} {sep : List Char}
    (hsep : ∀ c ∈ sep, good c = true) (names : List (List Char)) :
    (∀ c ∈ sep.intercalate names, good c = true) ↔
      ∀ name ∈ names, ∀ c ∈ name, good c = true := by
  induction names with
  | nil => simp
  | cons name names ih =>
    cases names with
    | nil => simp
    | cons next names =>
      rw [List.intercalate_cons_cons, List.forall_mem_append, List.forall_mem_append, ih,
        and_iff_left hsep]
      simp only [List.forall_mem_cons]

namespace PrunedZones

variable (p : PrunedZones)

/-- What the header says of the zones that were dropped. -/
def removedText : String :=
  if p.removed.isEmpty then "None" else ", ".intercalate p.removed

/-- The comment lines of the header, without their marks. -/
def headerLines : List (List Char) :=
  [" Suggested DNSBL Configuration (Broken endpoints removed)".toList,
    " Generated: ".toList ++ p.moment.textSeconds.toList,
    " Removed: ".toList ++ p.removedText.toList]

theorem toList_report : p.report.toList = commented p.headerLines p.document.toList := by
  have hfirst : "# Suggested DNSBL Configuration (Broken endpoints removed)\n# Generated: ".toList =
      '#' :: " Suggested DNSBL Configuration (Broken endpoints removed)".toList ++
        '\n' :: '#' :: " Generated: ".toList := by decide +kernel
  have hlast : "\n# Removed: ".toList = '\n' :: '#' :: " Removed: ".toList := by decide +kernel
  have hend : "\n".toList = ['\n'] := rfl
  have hheader : p.header =
      "# Suggested DNSBL Configuration (Broken endpoints removed)\n# Generated: " ++
        p.moment.textSeconds ++ "\n# Removed: " ++ p.removedText ++ "\n" := rfl
  rw [report, hheader]
  simp only [String.toList_append, hfirst, hlast, hend, commented, headerLines, List.flatMap_cons,
    List.flatMap_nil, List.append_assoc, List.cons_append, List.nil_append, List.append_nil]

variable {p}

theorem forall_mem_removedText {good : Char → Bool} (hsep : ∀ c ∈ ", ".toList, good c = true)
    (hnone : ∀ c ∈ "None".toList, good c = true) :
    (∀ c ∈ p.removedText.toList, good c = true) ↔
      ∀ zone ∈ p.removed, ∀ c ∈ zone.toList, good c = true := by
  rw [removedText]
  cases hremoved : p.removed with
  | nil => simpa using hnone
  | cons zone zones =>
    rw [List.isEmpty_cons, if_neg Bool.false_ne_true, String.toList_intercalate,
      forall_mem_intercalate hsep, List.forall_mem_map]

/-- The names that were dropped are all in the header, and nothing else in it is a break or cannot
stand in a stream. -/
theorem forall_mem_headerLines (good : Char → Bool)
    (hgood : ∀ c, isBreak c = false → isReadable c = true → good c = true) :
    (∀ line ∈ p.headerLines, ∀ c ∈ line, good c = true) ↔
      ∀ zone ∈ p.removed, ∀ c ∈ zone.toList, good c = true := by
  have hwords : [" Suggested DNSBL Configuration (Broken endpoints removed)", " Generated: ",
      " Removed: ", ", ", "None"].all
        (fun word => word.toList.all fun c => !isBreak c && isReadable c) = true := by
    decide +kernel
  have hconstant : ∀ word ∈ [" Suggested DNSBL Configuration (Broken endpoints removed)",
      " Generated: ", " Removed: ", ", ", "None"], ∀ c ∈ word.toList, good c = true := by
    intro word hword c hc
    have hchar := List.all_eq_true.1 (List.all_eq_true.1 hwords word hword) c hc
    rw [Bool.and_eq_true, Bool.not_eq_true'] at hchar
    exact hgood c hchar.1 hchar.2
  simp only [List.forall_mem_cons] at hconstant
  obtain ⟨htitle, hgenerated, hremoved, hsep, hnone, -⟩ := hconstant
  have hmoment : ∀ c ∈ p.moment.textSeconds.toList, good c = true := fun c hc =>
    have hclock := Time.of_isClockChar (Time.isClockChar_textSeconds p.moment c hc)
    hgood c hclock.1 hclock.2
  rw [headerLines, List.forall_mem_cons, List.forall_mem_cons, List.forall_mem_singleton,
    List.forall_mem_append, List.forall_mem_append, forall_mem_removedText hsep hnone,
    and_iff_right htitle, and_iff_right ⟨hgenerated, hmoment⟩, and_iff_right hremoved]

theorem isBreak_headerLines_iff :
    (∀ line ∈ p.headerLines, ∀ c ∈ line, isBreak c = false) ↔
      ∀ zone ∈ p.removed, ∀ c ∈ zone.toList, isBreak c = false := by
  have hheader := forall_mem_headerLines (p := p) (fun c => !isBreak c) fun c hbreak _ => by
    rw [hbreak]
    rfl
  simpa only [Bool.not_eq_true'] using hheader

theorem isReadable_headerLines_iff :
    (∀ line ∈ p.headerLines, ∀ c ∈ line, isReadable c = true) ↔
      ∀ zone ∈ p.removed, ∀ c ∈ zone.toList, isReadable c = true :=
  forall_mem_headerLines isReadable fun _ _ hreadable => hreadable

/-- The header is three lines of comments just if none of the names in it holds a break. -/
theorem exists_commented_iff :
    (∃ lines, lines.length = 3 ∧ (∀ line ∈ lines, ∀ c ∈ line, isBreak c = false) ∧
        p.report.toList = commented lines p.document.toList) ↔
      ∀ zone ∈ p.removed, ∀ c ∈ zone.toList, isBreak c = false := by
  rw [← isBreak_headerLines_iff]
  constructor
  · rintro ⟨lines, hlength, hlines, hreport⟩
    have hbreak : ∀ line ∈ lines, '\n' ∉ line := fun line hline hmem =>
      absurd (hlines line hline '\n' hmem) (by decide)
    have hall : lines.length = p.headerLines.length := hlength
    rw [toList_report] at hreport
    rw [eq_of_commented_eq hbreak hall hreport]
    exact hlines
  · exact fun hlines => ⟨p.headerLines, rfl, hlines, p.toList_report⟩

end PrunedZones

/-! ## Reading the list -/

namespace PrunedZones

variable {p : PrunedZones}

/-- The name of the list needs no quotes, and no reader takes it for a comment. -/
theorem read?_dnsblZones {texts : List String} (h : ∀ text ∈ texts, Trimmed text.toList)
    {lines : List (List Char)} (hlines : ∀ line ∈ lines, ∀ c ∈ line, isBreak c = false)
    {stream : String}
    (hstream : stream.toList =
      commented lines (Yaml.render (.object [("dnsbl_zones", .strings texts)])).toList) :
    read? "dnsbl_zones" stream = some texts ↔ ∀ line ∈ lines, ∀ c ∈ line, isReadable c = true :=
  read?_commented (by decide +kernel) (by decide +kernel) (by decide +kernel) h hlines hstream

theorem read?_document (h : ∀ zone ∈ p.healthy, Trimmed zone.toList) :
    read? "dnsbl_zones" p.document = some p.healthy := by
  have hstream : p.document.toList = commented [] p.document.toList := (List.nil_append _).symm
  exact (read?_dnsblZones h (List.forall_mem_nil _) hstream).2 (List.forall_mem_nil _)

theorem read?_report (h : ∀ zone ∈ p.healthy, Trimmed zone.toList)
    (hlines : ∀ zone ∈ p.removed, ∀ c ∈ zone.toList, isBreak c = false) :
    read? "dnsbl_zones" p.report = some p.healthy ↔
      ∀ zone ∈ p.removed, ∀ c ∈ zone.toList, isReadable c = true := by
  rw [← isReadable_headerLines_iff]
  exact read?_dnsblZones h (isBreak_headerLines_iff.2 hlines) p.toList_report

theorem mem_of_mem_healthy {records : List ZoneRecord} {moment : Moment} {zone : String}
    (h : zone ∈ (ofRecords records moment).healthy) : zone ∈ records.map (·.zone) := by
  rw [ofRecords, Text.mem_sortNames] at h
  obtain ⟨r, hr, rfl⟩ := List.mem_map.1 h
  exact List.mem_map_of_mem (List.mem_of_mem_filter hr)

end PrunedZones

theorem trimmed_of_mem_normalizedZones {zone : String} {zones : List String}
    (h : zone ∈ normalizedZones zones) : Trimmed zone.toList := by
  refine .of_trimBlanks (toList_ne_nil_of_mem_normalizedZones h) ?_
  rw [← Text.toList_trim, trim_of_mem_normalizedZones h]

namespace HealthTracker

/-- The list of the zones to keep for a tracker of checked zones with any history. It begins with
exactly three lines of comments just if no name of a zone that was dropped holds a line break. What
comes after them is read back as the zones to keep. So is the whole text, if the header is three
lines, unless a name in it holds a character that cannot stand in a stream. -/
theorem pruned_report_commented {settings : Settings} {t : HealthTracker}
    (h : ofZones settings.validate.1.probing.zones = .ok t) (calls : List TrackerCall)
    (connectivity : Option Connectivity) (moment : Moment) (durationMs : Nat) :
    let p := ((t.afterCalls calls).summarize connectivity moment durationMs).pruned
    ((∃ lines, lines.length = 3 ∧ (∀ line ∈ lines, ∀ c ∈ line, isBreak c = false) ∧
        p.report.toList = commented lines p.document.toList) ↔
      ∀ zone ∈ p.removed, ∀ c ∈ zone.toList, isBreak c = false) ∧
    read? "dnsbl_zones" p.document = some p.healthy ∧
    ((∀ zone ∈ p.removed, ∀ c ∈ zone.toList, isBreak c = false) →
      (read? "dnsbl_zones" p.report = some p.healthy ↔
        ∀ zone ∈ p.removed, ∀ c ∈ zone.toList, isReadable c = true)) := by
  intro p
  have htrimmed : ∀ zone ∈ p.healthy, Trimmed zone.toList := by
    intro zone hzone
    have hmem : zone ∈ (t.afterCalls calls).records.map (·.zone) :=
      PrunedZones.mem_of_mem_healthy hzone
    rw [zones_afterCalls h, Text.mem_sortNames] at hmem
    exact trimmed_of_mem_normalizedZones hmem
  exact ⟨PrunedZones.exists_commented_iff, PrunedZones.read?_document htrimmed,
    PrunedZones.read?_report htrimmed⟩

/-- One zone has failed; the names of the others need quotes or hold a line break. -/
theorem pruned_report_commented_one_removed :
    let settings : Settings :=
      { Settings.standard with
        probing :=
          ⟨[" Down.example ", "NULL", "it's: #1", "a\u2028b", "two\nlines"], 5, 10, false⟩ }
    let calls : List TrackerCall :=
      [.start, .note "down.example" false (some .timeout), .note "null" true none]
    ∃ t, ofZones settings.validate.1.probing.zones = .ok t ∧
      let p := ((t.afterCalls calls).summarize none ⟨0, 0⟩ 0).pruned
      p.removed = ["down.example"] ∧
        p.healthy = ["a\u2028b", "it's: #1", "null", "two\nlines"] ∧
        (∃ lines, lines.length = 3 ∧ (∀ line ∈ lines, ∀ c ∈ line, isBreak c = false) ∧
          p.report.toList = commented lines p.document.toList) ∧
        read? "dnsbl_zones" p.document = some p.healthy ∧
        read? "dnsbl_zones" p.report = some p.healthy := by
  intro settings calls
  have hbuilt : ofZones settings.validate.1.probing.zones =
      .ok ⟨[.fresh "a\u2028b", .fresh "down.example", .fresh "it's: #1", .fresh "null",
        .fresh "two\nlines"], 0⟩ := by decide +kernel
  refine ⟨_, hbuilt, ?_⟩
  intro p
  have hremoved : p.removed = ["down.example"] := by decide +kernel
  have hchars : "down.example".toList.all (fun c => !isBreak c) = true := by decide +kernel
  have hbreak : ∀ zone ∈ p.removed, ∀ c ∈ zone.toList, isBreak c = false := by
    rw [hremoved, List.forall_mem_singleton]
    exact fun c hc => by simpa using List.all_eq_true.1 hchars c hc
  have hreadable : ∀ zone ∈ p.removed, ∀ c ∈ zone.toList, isReadable c = true := by
    rw [hremoved, List.forall_mem_singleton]
    exact List.all_eq_true.1 (by decide +kernel)
  obtain ⟨hlines, hdocument, hreport⟩ := pruned_report_commented hbuilt calls none ⟨0, 0⟩ 0
  exact ⟨hremoved, by decide +kernel, hlines.2 hbreak, hdocument, (hreport hbreak).2 hreadable⟩

/-- The settings pass the check with a name of two lines. When its zone is dropped the header takes
four lines, the last of them no comment, and the text does not read as a list. -/
theorem pruned_report_spilled :
    let settings : Settings :=
      { Settings.standard with probing := ⟨["ok.example", "BL\nexample"], 5, 10, false⟩ }
    let calls : List TrackerCall :=
      [.start, .note "bl\nexample" false (some .unknownError), .note "ok.example" true none]
    settings.validate.2 = none ∧
      ∃ t, ofZones settings.validate.1.probing.zones = .ok t ∧
        let p := ((t.afterCalls calls).summarize none ⟨0, 0⟩ 0).pruned
        p.removed = ["bl\nexample"] ∧ p.healthy = ["ok.example"] ∧
          (¬ ∃ lines, lines.length = 3 ∧ (∀ line ∈ lines, ∀ c ∈ line, isBreak c = false) ∧
            p.report.toList = commented lines p.document.toList) ∧
          read? "dnsbl_zones" p.report = none := by
  intro settings calls
  have hbuilt : ofZones settings.validate.1.probing.zones =
      .ok ⟨[.fresh "bl\nexample", .fresh "ok.example"], 0⟩ := by decide +kernel
  refine ⟨by decide +kernel, _, hbuilt, ?_⟩
  intro p
  have hremoved : p.removed = ["bl\nexample"] := by decide +kernel
  refine ⟨hremoved, by decide +kernel, fun hlines => ?_, by decide +kernel⟩
  have hbreak := PrunedZones.exists_commented_iff.1 hlines
  rw [hremoved, List.forall_mem_singleton] at hbreak
  exact absurd (hbreak '\n' (by decide)) (by decide)

end HealthTracker

end BlocklistWatch
