import WorkflowLint.Analysis
import WorkflowLint.Decimal.Fixed
import WorkflowLint.Report.Basic
import WorkflowLint.Report.Stamp

/-!
# `WorkflowLint.Report.Markdown`: reports in Markdown

Each workflow is a section with a table of its main figures and a subsection for
everything that there is something to say about. Vertical bars in the cells of
tables are escaped.
-/

set_option autoImplicit false

namespace WorkflowLint.Report

/-- A text in a cell of a table. -/
def cell (s : String) : String := Text.substitute '|' "\\|" s

/-- A row of a table with two columns. -/
def row (left right : String) : String := "| " ++ left ++ " | " ++ right ++ " |\n"

/-- The activities of each type, in their order; the types in increasing order. -/
def byType (activities : List Activity) : Table (List Activity) :=
  activities.foldl (fun t a => t.insert a.tag ((t.get? a.tag).getD [] ++ [a])) .empty

/-- A subsection, unless it has no lines. -/
def subsection (heading : String) (lines : List String) : String :=
  if lines.isEmpty then "" else "### " ++ heading ++ "\n\n" ++ String.join lines ++ "\n"

/-- The table of the main figures. -/
def figures (a : Analysis) : String :=
  "| | |\n|---|---|\n" ++
  row "Workflow" (cell a.workflowName) ++
  row "Health score" (Decimal.onePlace a.healthScore ++ "/100 (" ++ a.rating.label ++ ")") ++
  row "Activities" (toString a.activities.length) ++
  row "Variables" (toString a.declared.length) ++
  row "Issues" (toString a.issues.length) ++
  row "Recommendations" (toString a.recommendations.length) ++ "\n"

/-- The lines about the activities of a type. -/
def typeLines (type : String) (activities : List Activity) : List String :=
  ("- **" ++ type ++ "** (" ++ toString activities.length ++ ")\n") ::
    activities.map fun a => "  - " ++ a.name ++ ": " ++ a.purpose ++ "\n"

/-- An issue. -/
def issueText (i : Issue) : String :=
  "- **" ++ i.title ++ "** `" ++ i.rule ++ "`\n" ++
  "  - Category: " ++ i.category.label ++ "\n" ++
  "  - Location: " ++ i.location ++ "\n" ++
  "  - Problem: " ++ i.description ++ "\n" ++
  "  - Solution: " ++ i.solution ++ "\n"

/-- The issues of a severity under a heading, if there are any. -/
def groupText (a : Analysis) (s : Severity) : String :=
  let issues := a.issuesOf s
  if issues.isEmpty then ""
  else
    "#### " ++ s.label ++ " (" ++ toString issues.length ++ ")\n\n" ++
    String.join (issues.map issueText) ++ "\n"

/-- All issues, the worst first. -/
def issuesText (a : Analysis) : String :=
  if a.issues.isEmpty then ""
  else "### Issues\n\n" ++ String.join (Severity.descending.map (groupText a))

/-- The packages that the project needs. -/
def dependenciesText (dependencies : Table String) : String :=
  if dependencies.isEmpty then ""
  else
    "### Dependencies\n\n| Package | Version |\n|---|---|\n" ++
    String.join (dependencies.entries.map fun e => row (cell e.1) (cell e.2)) ++ "\n"

/-- A workflow. -/
def analysisText (a : Analysis) : String :=
  "## " ++ a.file ++ "\n\n" ++ figures a ++
  "### Purpose\n\n**" ++ a.workflowPurpose ++ "**\n\n" ++ a.summary ++ "\n\n" ++
  subsection "Activities" ((byType a.activities).entries.flatMap fun e => typeLines e.1 e.2) ++
  subsection "Variables" (a.declared.map fun v => "- `" ++ v ++ "`\n") ++
  issuesText a ++
  subsection "Recommendations"
    (a.recommendations.zipIdx.map fun (r, i) => toString (i + 1) ++ ". " ++ r ++ "\n") ++
  dependenciesText a.dependencies ++
  subsection "External Resources"
    (a.urls.toList.map (fun u => "- <" ++ u ++ ">\n") ++
      a.connections.toList.map fun c => "- Database: `" ++ c ++ "`\n")

/-- A report in Markdown. -/
def markdown (stamp : Stamp) (analyses : List Analysis) : String :=
  "# " ++ title ++ "\n\n_Generated " ++ stamp.date ++ "_\n\n" ++
  String.join (analyses.map analysisText)

end WorkflowLint.Report
