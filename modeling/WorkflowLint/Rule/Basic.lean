import WorkflowLint.Config
import WorkflowLint.Facts
import WorkflowLint.Issue

/-!
# `WorkflowLint.Rule.Basic`: what rules look at

A rule is an identifier, a name and a function from what it may inspect to the
issues it reports. Rules do not see each other's issues. A rule writes its
identifier on every issue itself; that it is the one the catalogue lists the rule
under is proved in `WorkflowLint.Proofs.RuleChoice`.
-/

set_option autoImplicit false

namespace WorkflowLint

/-- Everything a rule may inspect. -/
structure Subject where
  document : Document
  facts : Facts
  thresholds : Thresholds

/-- What rules may inspect of a document. -/
def Subject.of (d : Document) (t : Thresholds) : Subject := ⟨d, .ofDocument d, t⟩

/-- A rule. -/
structure Rule where
  id : String
  name : String
  /-- The issues that the rule reports. -/
  issues : Subject → List Issue

/-- The place of an issue about the workflow as a whole. -/
def wholeWorkflow : String := "Entire workflow"

/-- The place of an issue about a declared variable. -/
def declarations : String := "Variable declarations"

end WorkflowLint
