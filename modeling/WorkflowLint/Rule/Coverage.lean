import WorkflowLint.Rule.Basic

/-!
# `WorkflowLint.Rule.Coverage`: rules about a workflow as a whole

These rules count: error handlers against containers, log messages, delays and
levels of nesting. Each reports at most one issue, and it is about the whole
workflow.
-/

set_option autoImplicit false

namespace WorkflowLint.Rule

/-- How many sequences and flowcharts there are among the activities. -/
def containerCount (s : Subject) : Nat :=
  (s.facts.activities.filter fun a => a.kind.isContainer).length

/-- No error handling anywhere: critical where there is a container, and high
where there are too many activities. -/
def missingErrorHandling (s : Subject) : List Issue :=
  let containers := containerCount s
  let activities := s.facts.activities.length
  let issue (severity : Severity) : Issue :=
    { rule := "ERR-001"
      severity
      category := .errorHandling
      title := "Missing error handling"
      description :=
        s!"The workflow contains no Try Catch activity ({activities} activities, " ++
        s!"{containers} sequences/flowcharts). Any unexpected exception stops the whole process."
      location := wholeWorkflow
      solution := "Wrap the main steps and anything that can fail (UI interaction, Excel, API " ++
        "calls) in Try Catch blocks, and protect loop bodies individually." }
  if s.document.countKind .tryCatch > 0 then []
  else if containers > 0 then [issue .critical]
  else if activities > s.thresholds.maxActivitiesWithoutTryCatch then [issue .high]
  else []

/-- Some error handling, but less than one handler for two containers. -/
def sparseErrorHandling (s : Subject) : List Issue :=
  let handlers := s.document.countKind .tryCatch
  let containers := containerCount s
  if handlers = 0 ∨ 2 * handlers ≥ containers then []
  else
    [{ rule := "ERR-002"
       severity := .medium
       category := .errorHandling
       title := "Sparse error handling"
       description := s!"Only {handlers} Try Catch block(s) for {containers} sequences/flowcharts."
       location := wholeWorkflow
       solution := "Add error handling around the critical operations." }]

/-- A workflow that never waits. -/
def noDelays (s : Subject) : List Issue :=
  if s.facts.activities.isEmpty ∨ s.document.countKind .delay > 0 then []
  else
    [{ rule := "TIME-001"
       severity := .medium
       category := .timing
       title := "No delays"
       description := "The workflow contains no Delay activity."
       location := wholeWorkflow
       solution := "Add delays where pages load or forms are submitted." }]

/-- No log messages, or too few. -/
def logVolume (s : Subject) : List Issue :=
  let count := s.document.countKind .logMessage
  if s.facts.activities.isEmpty then []
  else if count = 0 then
    [{ rule := "LOG-001"
       severity := .critical
       category := .logging
       title := "No logging"
       description := "The workflow contains no Log Message activity."
       location := wholeWorkflow
       solution := "Log the start and end of the process, every loop iteration, error paths and " ++
         "important decisions." }]
  else if count < s.thresholds.minLogMessages then
    [{ rule := "LOG-001"
       severity := .medium
       category := .logging
       title := "Insufficient logging"
       description := s!"Only {count} log message(s) in the whole workflow."
       location := wholeWorkflow
       solution := "Add more log messages for debugging and production monitoring." }]
  else []

/-- Nesting beyond the limit. -/
def nestingDepth (s : Subject) : List Issue :=
  let depth := s.document.depth
  let limit := s.thresholds.maxNestingDepth
  if depth ≤ limit then []
  else
    [{ rule := "MAINT-001"
       severity := .medium
       category := .performance
       title := "Excessive nesting"
       description := s!"Activities are nested {depth} levels deep (limit {limit})."
       location := wholeWorkflow
       solution := "Split deep branches into separate workflows and call them with Invoke " ++
         "Workflow File." }]

end WorkflowLint.Rule
