import WorkflowLint.Analysis.File
import WorkflowLint.CommandLine.Inputs
import WorkflowLint.CommandLine.Notice
import WorkflowLint.CommandLine.Settings
import WorkflowLint.Config.File
import WorkflowLint.Report

/-!
# `WorkflowLint.CommandLine.Run`: what a command does

A run is a function of the command line and of the surroundings, and its outcome
says all that it does: what it prints, which file it writes and how it
exits. It exits with

* `failure` if the command line, the configuration or some input is of no use, if
  there is no workflow at all, or if the report cannot be written;
* `belowMinimum` if everything went well and some score is too low;
* `success` otherwise.

A report is made of the workflows that could be analysed, even if others could
not. The workflows can be analysed at the same time by several workers, and how they
share the work is no matter of the run: they are an argument of it.
-/

set_option autoImplicit false

namespace WorkflowLint.CommandLine

/-- What a run depends on besides its command line. -/
structure Surroundings where
  files : FileSystem
  /-- When the report is made. -/
  stamp : Report.Stamp
  /-- Whether the output goes to a terminal. -/
  terminal : Bool := false

/-! ### Outcomes -/

/-- The exit code when everything went well. -/
def success : Nat := 0

/-- The exit code when something was of no use. -/
def failure : Nat := 1

/-- The exit code when a score is too low. -/
def belowMinimum : Nat := 2

/-- The exit code when the command line is not understood. -/
def misuse : Nat := 2

/-- A file that is written. -/
structure Written where
  path : String
  /-- The names on the way down from the root to the file. -/
  address : List String
  content : String
deriving DecidableEq, Repr

/-- All that a run does. -/
structure Outcome where
  exit : Nat
  /-- What is printed. -/
  output : String := ""
  /-- What is said besides, in order. -/
  notices : List Notice := []
  written? : Option Written := none
deriving DecidableEq, Repr

/-! ### Parts of a run -/

/-- The configuration of a run, or why it is of no use; and warnings. A
configuration that was not asked for by name may be of no use. -/
def configOf (fs : FileSystem) (s : Settings) : Except ConfigError Config × List Notice :=
  match s.config? with
  | some path => (Config.load fs path, [])
  | none =>
    match Config.discover fs fs.currentPath with
    | some (.ok c) => (.ok c, [])
    | some (.error e) => (.ok {}, [.warning e.message])
    | none => (.ok {}, [])

/-- What comes of one file. -/
def resultOf (fs : FileSystem) (s : Settings) (c : Config) (file : String) : FileResult :=
  Analysis.ofFile fs file (s.metadata? <|> Project.find? fs file) c

/-- Workers that are told what comes of one file. They are given files and hand over
what comes of them. -/
def Workers := (String → FileResult) → List String → List FileResult

/-- A single worker, who takes the files one after the other. -/
def oneWorker : Workers := fun work files => files.map work

/-- The analyses among results, in their order. -/
def analysesOf (results : List FileResult) : List Analysis :=
  results.filterMap fun r => r.result.toOption

/-- The warning that a result comes with. -/
def warningOf? (r : FileResult) : Option Notice := r.warning?.map .warning

/-- A complaint about something that fails the run. -/
def errorNotice (text : String) : Notice := .complaint ("Error: " ++ text)

/-- The complaint of a result without an analysis. -/
def complaintOf? (r : FileResult) : Option Notice :=
  match r.result with
  | .ok _ => none
  | .error e => some (errorNotice e.message)

/-- The complaint about a path that means nothing. -/
def missingComplaint (path : String) : Notice := errorNotice (path ++ " does not exist")

/-- The complaint about a score that is too low. -/
def scoreComplaint (minimum : Float) (a : Analysis) : Notice :=
  .complaint (a.file ++ ": score " ++ Decimal.onePlace a.healthScore ++ " is below " ++
    Decimal.onePlace minimum)

/-- The analyses whose score is too low. -/
def tooLow (s : Settings) (analyses : List Analysis) : List Analysis :=
  match s.minScore? with
  | none => []
  | some minimum => analyses.filter fun a => a.healthScore < minimum

/-- The notices that are said. -/
def said (s : Settings) (notices : List Notice) : List Notice :=
  notices.filter (Notice.isSaid s.verbose)

/-- The exit code and the complaints at the end, once the report is out. -/
def verdict (s : Settings) (failed : Bool) (analyses : List Analysis) : Nat × List Notice :=
  if failed then (failure, [])
  else
    match s.minScore? with
    | none => (success, [])
    | some minimum =>
      let low := tooLow s analyses
      if low.isEmpty then (success, [])
      else (belowMinimum, low.map (scoreComplaint minimum))

/-- Whether the report has colours. -/
def colored (w : Surroundings) (s : Settings) : Bool :=
  s.output?.isNone && !s.noColor && w.terminal

/-! ### Runs -/

/-- A run with a configuration, some warnings having been given. -/
def runWith (workers : Workers) (w : Surroundings) (s : Settings) (c : Config)
    (warnings : List Notice) : Outcome :=
  let fs := w.files
  let inputs := Inputs.collect fs c s.paths
  let missing := inputs.missing.map missingComplaint
  if inputs.files.isEmpty then
    { exit := failure
      notices := said s (warnings ++ missing ++ [.complaint "No workflow files found"]) }
  else
    let results := workers (resultOf fs s c) inputs.files
    let analyses := analysesOf results
    let failures := results.filterMap complaintOf?
    let notices := warnings ++ missing ++
      [.info ("Analyzing " ++ toString inputs.files.length ++ " workflow(s)")] ++
      results.filterMap warningOf? ++ failures
    let report := Report.render s.format (colored w s) w.stamp analyses
    let (exit, late) := verdict s (!missing.isEmpty || !failures.isEmpty) analyses
    match s.output? with
    | none => { exit := exit, output := report ++ "\n", notices := said s (notices ++ late) }
    | some path =>
      match fs.target path with
      | .error e =>
        { exit := failure
          notices := said s
            (notices ++ [errorNotice ("Failed to write " ++ path ++ ": " ++ e.message)]) }
      | .ok address =>
        { exit := exit
          notices := said s (notices ++ [.info ("Report written to " ++ path)] ++ late)
          written? := some ⟨path, address, report⟩ }

/-- A run with settings. -/
def runSettings (workers : Workers) (w : Surroundings) (s : Settings) : Outcome :=
  match configOf w.files s with
  | (.error e, _) => { exit := failure, notices := [errorNotice e.message] }
  | (.ok c, warnings) => runWith workers w s c warnings

/-- A run. -/
def run (w : Surroundings) (arguments : List String) (workers : Workers := oneWorker) : Outcome :=
  match Settings.ofArguments arguments with
  | .ok s => runSettings workers w s
  | .error (.usage e) => { exit := misuse, notices := [.misuse e] }
  | .error .help => { exit := success, output := helpText }
  | .error .version => { exit := success, output := versionText }

end WorkflowLint.CommandLine
