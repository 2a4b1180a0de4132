import WorkflowLint.Report.Html
import WorkflowLint.Report.Json
import WorkflowLint.Report.Markdown
import WorkflowLint.Report.Text

/-!
# `WorkflowLint.Report`: reports in every format

Only reports for terminals can have colours, and only the others say when they
were made.
-/

set_option autoImplicit false

namespace WorkflowLint.Report

/-- A report on some workflows. -/
def render (format : Format) (colored : Bool) (stamp : Stamp) (analyses : List Analysis) :
    String :=
  match format with
  | .text => text colored analyses
  | .json => json stamp analyses
  | .markdown => markdown stamp analyses
  | .html => html stamp analyses

end WorkflowLint.Report
