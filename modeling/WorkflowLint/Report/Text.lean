import WorkflowLint.Analysis
import WorkflowLint.Decimal.Fixed
import WorkflowLint.Report.Span

/-!
# `WorkflowLint.Report.Text`: reports for terminals

Each workflow has a heading, its score and its issues, the worst first. Behind
all workflows stands how many issues of each severity there are in total, and a
verdict that follows the weakest workflow.
-/

set_option autoImplicit false

namespace WorkflowLint.Report

/-- The style of a severity. -/
def severityStyle : Severity → Style
  | .critical => .magenta
  | .high => .red
  | .medium => .yellow
  | .low => .cyan

/-- The style of a rating. -/
def ratingStyle : Rating → Style
  | .excellent => .green
  | .good => .yellow
  | .needsImprovement => .red

/-- Some spans, unless a text is empty. -/
def unlessEmpty (text : String) (spans : List Span) : List Span :=
  if text.isEmpty then [] else spans

/-- An issue. -/
def issueSpans (i : Issue) : List Span :=
  [.plain "    ", .styled (severityStyle i.severity) i.severity.smallLabel,
   .plain ("[" ++ i.rule ++ "]: " ++ i.title)] ++
  unlessEmpty i.location [.plain " ", .styled .dim ("(" ++ i.location ++ ")")] ++
  unlessEmpty i.description [.plain ("\n      " ++ i.description)] ++
  unlessEmpty i.solution [.plain "\n      ", .styled .dim ("fix: " ++ i.solution)] ++
  [.plain "\n"]

/-- The issues of a severity under a heading, if there are any. -/
def groupSpans (a : Analysis) (s : Severity) : List Span :=
  let issues := a.issuesOf s
  if issues.isEmpty then []
  else
    [.plain "\n  ",
     .styled (severityStyle s) (s.label ++ " (" ++ toString issues.length ++ ")"),
     .plain "\n"] ++ issues.flatMap issueSpans

/-- The recommendations under a heading, if there are any. -/
def recommendationSpans (recommendations : List String) : List Span :=
  if recommendations.isEmpty then []
  else
    [.plain "\n  ", .styled .bold "Recommendations", .plain "\n"] ++
      recommendations.map fun r => .plain ("    - " ++ r ++ "\n")

/-- A workflow. -/
def analysisSpans (a : Analysis) : List Span :=
  [.styled .bold a.file,
   .plain ("\n  Workflow: " ++ a.workflowName ++ "\n  Purpose: " ++ a.workflowPurpose ++
     "\n  Health score: "),
   .styled (ratingStyle a.rating)
     (Decimal.onePlace a.healthScore ++ "/100 (" ++ a.rating.label ++ ")"),
   .plain ("\n  Activities: " ++ toString a.activities.length ++ ", variables: " ++
     toString a.declared.length ++ "\n")] ++
  Severity.descending.flatMap (groupSpans a) ++
  recommendationSpans a.recommendations

/-- Numbers of issues, one for each severity, with those of one more workflow added. -/
def addCounts (counts : List Nat) (a : Analysis) : List Nat :=
  List.zipWith (fun n s => n + a.count s) counts Severity.descending

/-- How many issues of each severity some workflows have in total, the worst severity
first. -/
def totals (analyses : List Analysis) : List Nat :=
  analyses.foldl addCounts (Severity.descending.map fun _ => 0)

/-- The totals in words. -/
def totalSpans (analyses : List Analysis) : List Span :=
  let part (s : Severity) (n : Nat) : Span :=
    .styled (severityStyle s) (toString n ++ " " ++ s.smallLabel)
  [.plain "Found "] ++
  (List.zipWith part Severity.descending (totals analyses)).intersperse (.plain ", ") ++
  [.plain (" in " ++ toString analyses.length ++ " workflow" ++
    (if analyses.length = 1 then "" else "s") ++ "\n")]

/-- The workflow with the lowest score, the first of several. -/
def weakest? : List Analysis → Option Analysis
  | [] => none
  | a :: rest =>
    some (rest.foldl
      (fun worst b =>
        if Decimal.orderKey b.healthScore < Decimal.orderKey worst.healthScore then b else worst)
      a)

/-- The verdict. -/
def verdictSpans (analyses : List Analysis) : List Span :=
  match weakest? analyses with
  | none => []
  | some worst =>
    [.plain "Verdict: ",
     .styled (ratingStyle worst.rating)
       (worst.rating.label ++ " (lowest score " ++ Decimal.onePlace worst.healthScore ++ ")"),
     .plain "\n"]

/-- A report for terminals as spans. -/
def textSpans (analyses : List Analysis) : List Span :=
  (analyses.flatMap fun a => analysisSpans a ++ [.plain "\n"]) ++
  totalSpans analyses ++ verdictSpans analyses

/-- A report for terminals. -/
def text (colored : Bool) (analyses : List Analysis) : String :=
  Span.render colored (textSpans analyses)

end WorkflowLint.Report
