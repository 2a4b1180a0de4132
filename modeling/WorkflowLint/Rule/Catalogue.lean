import WorkflowLint.Rule.Coverage
import WorkflowLint.Rule.Handler
import WorkflowLint.Rule.RowLoop
import WorkflowLint.Rule.Screen
import WorkflowLint.Rule.Variable
import WorkflowLint.Rule.Workbook

/-!
# `WorkflowLint.Rule.Catalogue`: all rules in their order

Rules run in the order of the catalogue: error handling first, then the rules
about particular activities, then the rules about form. The issues of a workflow
are the issues of its rules one after the other.
-/

set_option autoImplicit false

namespace WorkflowLint

/-- All rules in their order. -/
def Rule.catalogue : List Rule :=
  [⟨"ERR-001", "Missing error handling", missingErrorHandling⟩,
   ⟨"ERR-002", "Sparse error handling", sparseErrorHandling⟩,
   ⟨"XL-001", "Scope-in-loop hazard", scopeInLoop⟩,
   ⟨"XL-002", "Risky auto-increment", autoIncrement⟩,
   ⟨"WEB-001", "Nested browser scope", nestedScopes⟩,
   ⟨"WEB-002", "Missing field-clear mode", emptyFieldMode⟩,
   ⟨"WEB-003", "Missing post-click delay", postClickDelay⟩,
   ⟨"LOOP-001", "Loop without try-catch", loopErrorHandling⟩,
   ⟨"LOOP-002", "Loop under-logged", loopLogging⟩,
   ⟨"SEL-001", "Long URL query", urlQueryLength⟩,
   ⟨"SEL-002", "Full selector without fuzzy", fuzzySelector⟩,
   ⟨"TIME-001", "No delays", noDelays⟩,
   ⟨"LOG-001", "No or low logging", logVolume⟩,
   ⟨"PATH-001", "Hardcoded file path", hardcodedPaths⟩,
   ⟨"PATH-002", "Known misspelling", knownMisspellings⟩,
   ⟨"MAINT-001", "Excessive nesting", nestingDepth⟩,
   ⟨"MAINT-002", "Naming convention", variableNaming⟩,
   ⟨"LOG-002", "Miscategorized error log", catchLogLevel⟩,
   ⟨"LOGIC-001", "Empty Try", emptyTry⟩,
   ⟨"LOGIC-002", "Empty Catch", emptyCatch⟩,
   ⟨"LOGIC-003", "Empty Then", emptyThen⟩,
   ⟨"LOGIC-004", "Empty Else", emptyElse⟩,
   ⟨"LOGIC-005", "Unused variable", unusedVariables⟩]

/-- The issues that the enabled rules report, in the order of the rules. -/
def Subject.issues (s : Subject) (c : Config) : List Issue :=
  (Rule.catalogue.filter fun r => c.enables r.id).flatMap (·.issues s)

end WorkflowLint
