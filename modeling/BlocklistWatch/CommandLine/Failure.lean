import BlocklistWatch.Config.Error
import BlocklistWatch.Monitor.Files

/-!
# Failures of commands

Why a command is given up, with the reasons behind the reason.

* `Failure.text` is the text shown for a failure.
-/

namespace BlocklistWatch

/-- Why a command is given up: the outermost reason and those behind it. -/
structure Failure where
  reason : String
  behind : List String
deriving DecidableEq, Repr

namespace Failure

def of (reason : String) : Failure := ⟨reason, []⟩

def within (reason : String) (f : Failure) : Failure :=
  ⟨reason, f.reason :: f.behind⟩

/-- A reason moved in, all its lines but the first by the given number of blanks. -/
def indented (blanks : Nat) (s : String) : String :=
  ("\n" ++ String.ofList (List.replicate blanks ' ')).intercalate (Text.pieces '\n' s)

def numbered (n : Nat) (s : String) : String :=
  let number := Text.decimal n
  "\n" ++ String.ofList (List.replicate (5 - number.length) ' ') ++ number ++ ": " ++ indented 7 s

def text (f : Failure) : String :=
  "Error: " ++ f.reason ++
    match f.behind with
    | [] => ""
    | [s] => "\n\nCaused by:\n    " ++ indented 4 s
    | several => "\n\nCaused by:" ++
        String.join (several.zipIdx.map fun (s, n) => numbered n s)

def ofFile (reason : String) (e : FileError) : Failure :=
  ⟨reason, [e.message]⟩

def ofStore (e : StoreError) : Failure :=
  match e with
  | .file _ cause => ofFile e.message cause
  | .notRows cause => ⟨e.message, cause.message?.toList⟩
  | .noRow _ => of e.message

def ofRun : RunError StoreError ReportError → Failure
  | .store e => ofStore e
  | .check e => of e.message
  | .tracker e => of e.message
  | .report e => ofFile e.message e.error

end Failure

end BlocklistWatch
