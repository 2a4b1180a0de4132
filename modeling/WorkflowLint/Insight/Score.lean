import WorkflowLint.Counting
import WorkflowLint.Issue

/-!
# `WorkflowLint.Insight.Score`: how healthy a workflow is

The score starts at a hundred points and loses fifteen for every issue of high
severity and ten for every one of medium severity, down to nothing. Critical and
low issues do not count. Scores are compared and printed as floating-point
numbers, because reports may bring in scores that are no whole numbers; the
scores made here are whole.
-/

set_option autoImplicit false

namespace WorkflowLint

/-- The points that an issue of a severity costs. -/
def Severity.penalty : Severity → Nat
  | .high => 15
  | .medium => 10
  | .critical => 0
  | .low => 0

/-- The points that issues leave of a hundred. -/
def points (issues : List Issue) : Nat := 100 - sumOf (·.severity.penalty) issues

/-- The health score of a workflow with some issues. -/
def healthScore (issues : List Issue) : Float := Float.ofNat (points issues)

/-- How a score is judged. -/
inductive Rating where
  | excellent
  | good
  | needsImprovement
deriving DecidableEq, Repr

namespace Rating

/-- The rating of a score. -/
def ofScore (score : Float) : Rating :=
  if score ≥ 80 then excellent
  else if score ≥ 60 then good
  else needsImprovement

/-- The name of a rating. -/
def label : Rating → String
  | excellent => "Excellent"
  | good => "Good"
  | needsImprovement => "Needs Improvement"

end Rating

end WorkflowLint
