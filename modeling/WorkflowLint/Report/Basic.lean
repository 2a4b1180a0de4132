import WorkflowLint.Text.Case

/-!
# `WorkflowLint.Report.Basic`: kinds of reports

A report shows one or more analyses in one of four formats. Two of the formats
have a title, and two name the tool that made the report.
-/

set_option autoImplicit false

namespace WorkflowLint.Report

/-- The formats of reports. -/
inductive Format where
  | text
  | json
  | markdown
  | html
deriving DecidableEq, Repr

namespace Format

/-- The format that a name means, in any case. -/
def ofName? (name : String) : Option Format :=
  match Text.lower name with
  | "text" => some text
  | "json" => some json
  | "markdown" => some markdown
  | "md" => some markdown
  | "html" => some html
  | _ => none

/-- The complaint about a name that means no format. -/
def complaint (name : String) : String := "Unknown format: " ++ name

end Format

/-- The name of this tool. -/
def toolName : String := "xaml-analyzer"

/-- The version of this tool. -/
def toolVersion : String := "0.1.0"

/-- The title of reports. -/
def title : String := "UiPath Workflow Analysis Report"

end WorkflowLint.Report
