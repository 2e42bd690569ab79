import BlocklistWatch.Text.Number
import BlocklistWatch.Text.Quoted

/-!
# Unusable settings

Why settings cannot be used: a variable whose value cannot be read, or values that do not fit
together.

* `SettingsError.message` is the text shown for either.
-/

namespace BlocklistWatch

inductive SettingsFault where
  | noZones
  | timeout (secs : Nat)
  | concurrency (limit : Nat)
  | priorityRange
  | priorityOrder (listed fallback : UInt8)
  | ticketServer
  | ticketField (name : String)
deriving DecidableEq, Repr

def SettingsFault.message : SettingsFault → String
  | noZones => "at least one DNSBL zone is required (set DNSBL_ZONES or [dns].zones)"
  | timeout secs => "DNS timeout must be between 1 and 60 seconds, got " ++ Text.decimal secs
  | concurrency limit => "DNS concurrency must be between 1 and 100, got " ++ Text.decimal limit
  | priorityRange => "priorities must be between 0 and 100"
  | priorityOrder listed fallback =>
    "listed_priority (" ++ Text.decimal listed.toNat ++
      ") must be lower than clean_fallback_priority (" ++ Text.decimal fallback.toNat ++ ")"
  | ticketServer => "Jira server must be an HTTPS URL"
  | ticketField name => "Jira " ++ name ++ " is required"

inductive SettingsError where
  | badValue (key value reason : String)
  | unfit (fault : SettingsFault)
deriving DecidableEq, Repr

def SettingsError.message : SettingsError → String
  | .badValue key value reason =>
    "invalid value " ++ Text.quoted value ++ " for " ++ key ++ ": " ++ reason
  | .unfit fault => "invalid configuration: " ++ fault.message

end BlocklistWatch
