import BlocklistWatch.Monitor.Run
import BlocklistWatch.Report.Health
import BlocklistWatch.Store.FileStore

/-!
# Runs over files

The store and the reports of a run as files on a disk.

* `fileStoreDesk` keeps the rows in a file.
* `fileReportDesk` puts the reports into a directory or collects what is printed.
-/

namespace BlocklistWatch

def fileStoreDesk : StoreDesk (FileStore × Disk) StoreError where
  fetch s := (.ok s.1.states, s)
  apply state t policy s := s.1.apply s.2 state t policy

def summaryFile : String := "dnsbl-health.json"

def prunedFile : String := "dnsbl-pruned.yaml"

structure ReportError where
  path : String
  error : FileError
deriving DecidableEq, Repr

def ReportError.message (e : ReportError) : String :=
  "failed to write " ++ e.path ++ ": " ++ e.error.message

def reportStep (path : String) (action : FileAction) (disk : Disk) :
    Except ReportError Unit × Disk :=
  match disk.step action with
  | (.ok (), disk) => (.ok (), disk)
  | (.error e, disk) => (.error ⟨path, e⟩, disk)

def writeFiles (dir : String) : List (String × String) → Disk →
    Except ReportError (List String) × Disk
  | [], disk => (.ok [], disk)
  | (name, content) :: rest, disk =>
    let path := pathIn dir name
    match reportStep path (.write path content) disk with
    | (.error e, disk) => (.error e, disk)
    | (.ok (), disk) =>
      match writeFiles dir rest disk with
      | (.error e, disk) => (.error e, disk)
      | (.ok paths, disk) => (.ok (path :: paths), disk)

/-- Writes both reports of a summary into a directory, which is made if it is not there. -/
def publishTo (dir : String) (summary : HealthSummary) (disk : Disk) :
    Except ReportError (List String) × Disk :=
  match reportStep dir (.makeDirectory dir) disk with
  | (.error e, disk) => (.error e, disk)
  | (.ok (), disk) =>
    writeFiles dir [(summaryFile, summary.report), (prunedFile, summary.pruned.report)] disk

def printedReports (summary : HealthSummary) : String :=
  summary.report ++ "\n\n" ++ summary.pruned.report

/-- Reports in a directory, or printed if there is none; what was printed is collected beside the
disk. -/
def fileReportDesk (dir : Option String) : ReportDesk (Disk × String) ReportError where
  publish summary s :=
    match dir with
    | none => (.ok [], s.1, s.2 ++ printedReports summary)
    | some dir =>
      let (answer, disk) := publishTo dir summary s.1
      (answer, disk, s.2)

end BlocklistWatch
