/-
  Repunits.Program.Standard
  ────────────────────────────────
  **The libraries that the programs are run with.**

  Arguments are read by `readCommandLine`, and log filters by `Filter.ofText?`
  and `Filter.ofTextLossy`.
-/
import Repunits.Log.Filter
import Repunits.Program.CommandLine
import Repunits.Program.Run

namespace Repunits.Program

/-- How a program ends where its arguments lead to no run. Only the exit code and the line about the
version are told here; the wording of the help and of complaints is left out. -/
def Stop.transcript : Stop → Transcript
  | .usage => { exit := 2 }
  | .help => { exit := 0 }
  | .version => { exit := 0, out := "exercises 0.1.0\n" }

/-- The libraries of the programs. -/
def Libraries.standard : Libraries where
  readArguments args := (readCommandLine args).mapError Stop.transcript
  filter? text := (Log.Filter.ofText? text).map Log.Filter.admits
  filter text := (Log.Filter.ofTextLossy text).admits

end Repunits.Program
