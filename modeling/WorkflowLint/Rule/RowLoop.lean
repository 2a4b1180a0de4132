import WorkflowLint.Rule.Basic

/-!
# `WorkflowLint.Rule.RowLoop`: rules about loops over table rows

What happens inside a loop over rows happens for every row: a workbook should
not be opened there, a failing row should not stop the others, and every row
should leave a trace in the log. Each rule reports at most one issue for a loop.
-/

set_option autoImplicit false

namespace WorkflowLint.Rule

/-- What a loop without a display name is called. -/
def loopName : String := "For Each Row"

/-- A workbook opened inside a loop; the first one is named. -/
def scopeInLoop (s : Subject) : List Issue :=
  (s.document.ofKind .forEachRow).filterMap fun loop =>
    (loop.belowOfKind Kind.isExcelScope).head?.map fun first =>
      let scopeText := first.display first.name
      let loopText := loop.display loopName
      { rule := "XL-001"
        severity := .critical
        category := .performance
        title := "Excel scope inside loop"
        description := s!"'{scopeText}' is opened inside the row loop '{loopText}', so the " ++
          "workbook is opened and closed on every iteration."
        location := loop.located
        solution := "Open the workbook once outside the loop and keep only the write operations " ++
          "inside it." }

/-- A loop with no error handling inside. -/
def loopErrorHandling (s : Subject) : List Issue :=
  ((s.document.ofKind .forEachRow).filter fun loop =>
    (loop.belowNamed Kind.tryCatch.tags).isEmpty).map fun loop =>
      let loopText := loop.display loopName
      { rule := "LOOP-001"
        severity := .critical
        category := .errorHandling
        title := "Loop without try-catch"
        description :=
          s!"'{loopText}' has no Try Catch inside, so one bad row stops every remaining row."
        location := loop.located
        solution :=
          "Wrap the loop body in a Try Catch so a failure only skips the current row." }

/-- A loop with too few log messages inside. -/
def loopLogging (s : Subject) : List Issue :=
  let minimum := s.thresholds.minLoopLogMessages
  (s.document.ofKind .forEachRow).filterMap fun loop =>
    let logs := (loop.belowNamed Kind.logMessage.tags).length
    let loopText := loop.display loopName
    if logs ≥ minimum then none
    else some
      { rule := "LOOP-002"
        severity := .medium
        category := .logging
        title := "Loop under-logged"
        description :=
          s!"'{loopText}' contains {logs} log message(s); at least {minimum} are expected."
        location := loop.located
        solution := "Log at the start and end of every iteration." }

end WorkflowLint.Rule
