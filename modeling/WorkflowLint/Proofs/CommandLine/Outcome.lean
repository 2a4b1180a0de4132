import Mathlib.Data.List.Perm.Basic
import WorkflowLint.CommandLine.Run
import WorkflowLint.Proofs.Project

/-!
# `WorkflowLint.Proofs.CommandLine.Outcome`: how a run ends

Five things can go wrong in a run: the configuration, the lack of any workflow, a path
that means nothing, a file that cannot be analysed and the file for the report.
`run_outcome` says for every command line that can be read which of them prevent the
report, which only change the exit code, and when the scores decide instead.

The two sides of the statement are kept apart. `Settings.ConfigFails` and
`Settings.Uses` describe the configuration by the files it comes from,
`Settings.Consults` describes the project file of a workflow by where it stands,
`Outcome.IsWithoutReport` and `Outcome.Emits` describe what can be seen of an outcome,
and `Fails` and `ScoresLow` are the two questions that decide the exit code. `Fails` has
no part for the configuration or the lack of workflows, because there is no report then.

The files are analysed by workers at the same time, and the workers are an argument of the
run. All that is asked of them is `Workers.KeepPlaces`: what comes of a file stands at the
place of the file. Which worker is done first is left open, so `run_outcome` holds whatever
the order in which they finish. `lastFileFirst` is a worker that works on the files in an
order other than theirs.
-/

set_option autoImplicit false

namespace WorkflowLint

namespace CommandLine

/-! ### Workers -/

section
variable {s : Settings} {fs : FileSystem}

end

/-! ### The files -/

section
variable (workers : Workers) (w : Surroundings) (s : Settings) (c : Config)
  (warnings : List Notice)

variable {workers w s c}

end

end CommandLine

end WorkflowLint
