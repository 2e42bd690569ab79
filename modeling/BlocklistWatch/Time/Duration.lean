import BlocklistWatch.Text.Ascii

/-!
# Durations

Lengths of time in milliseconds, as diagnostics show them: in seconds from one second on, with as
many decimals as are needed, and in milliseconds below.
-/

namespace BlocklistWatch.Duration

def dropZeros (cs : List Char) : List Char :=
  (cs.reverse.dropWhile (· == '0')).reverse

/-- A duration as diagnostics show it; one without any length is shown in the smallest unit. -/
def text (ms : Nat) : String :=
  if ms = 0 then "0ns"
  else if ms < 1000 then Text.decimal ms ++ "ms"
  else
    let fraction := dropZeros (Text.padZeros 3 (Text.decimalDigits (ms % 1000)))
    Text.decimal (ms / 1000) ++
      (if fraction = [] then "" else String.ofList ('.' :: fraction)) ++ "s"

end BlocklistWatch.Duration
