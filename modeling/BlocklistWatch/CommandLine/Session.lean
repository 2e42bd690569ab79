import BlocklistWatch.CommandLine.Display
import BlocklistWatch.CommandLine.Pass

/-!
# Sessions

A command line from its arguments to what it leaves.

* `Machine.execute` carries out a command line that was understood.
-/

namespace BlocklistWatch

namespace Machine

def execute (m : Machine) (i : Invocation) : CommandOutcome :=
  let colors := ! i.noColor && wantsColor m.environment m.isTerminal
  let format := i.output.getD .text
  let file := m.settingsFile? i.config
  let start : Progress := ⟨"", "", [], m.disk⟩
  match m.loadSettings file with
  | .error f => start.finish (.error f)
  | .ok s =>
    let (answer, p) := match i.command with
      | .run o => m.pass format colors o s start
      | .check ip zones => m.check format colors ip zones s start
      | .connectivity => m.askResolvers format colors s start
      | .settings => showSettings file format colors s start
    p.finish answer

end Machine

end BlocklistWatch
