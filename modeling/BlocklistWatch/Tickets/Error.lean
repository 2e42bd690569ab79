import BlocklistWatch.Json.Decoder

/-!
# Failures of the ticket system

Why a call to the ticket system failed, and which failures may pass by themselves.

* `TicketError.statusCode?` is the status behind a failure, `TicketError.isPassing` says whether it
  is one of those worth another attempt.
-/

namespace BlocklistWatch

inductive TicketError where
  | transport (reason : String)
  | api (status : Nat) (message : String)
  | badBody (e : Json.DecodeError)
  | configuration (reason : String)
  | exhausted (attempts : Nat) (last : TicketError)
deriving Repr, Inhabited

/-- The statuses that may pass by themselves: too many requests, and failures of the server. -/
def passingStatuses : List Nat :=
  [429, 500, 502, 503, 504]

namespace TicketError

/-- The text shown for an answer that could not be decoded; a fault of the text is shown as that of
an empty one. -/
def bodyText (e : Json.DecodeError) : String :=
  e.message?.getD "EOF while parsing a value at line 1 column 0"

def message : TicketError → String
  | transport reason => "HTTP error: " ++ reason
  | api status message => "API error (" ++ Text.decimal status ++ "): " ++ message
  | badBody e => "JSON error: " ++ bodyText e
  | configuration reason => "configuration error: " ++ reason
  | exhausted attempts last =>
    "gave up after " ++ Text.decimal attempts ++ " attempts: " ++ last.message

def statusCode? : TicketError → Option Nat
  | api status _ => some status
  | exhausted _ last => last.statusCode?
  | _ => none

def isPassing : TicketError → Bool
  | api status _ => passingStatuses.contains status
  | _ => false

end TicketError

end BlocklistWatch
