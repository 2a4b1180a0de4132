import WorkflowLint.Glob
import WorkflowLint.Text.Search

/-!
# `WorkflowLint.Config`: what to check and how strictly

A configuration selects rules by patterns of their identifiers, names files to
leave out when directories are searched, and sets the numbers that some rules
compare with. A pattern of identifiers ends in a star to mean every identifier
that starts like it; otherwise it means itself.
-/

set_option autoImplicit false

namespace WorkflowLint

/-- The numbers that rules compare with. -/
structure Thresholds where
  /-- The deepest nesting that is tolerated. -/
  maxNestingDepth : Nat := 7
  /-- The longest query that is tolerated in a selector's address. -/
  maxUrlQueryLength : Nat := 50
  /-- The number of log messages that every loop over rows should have. -/
  minLoopLogMessages : Nat := 2
  /-- The number of log messages that a workflow should have. -/
  minLogMessages : Nat := 3
  /-- The number of activities beyond which a workflow needs error handling. -/
  maxActivitiesWithoutTryCatch : Nat := 5
deriving DecidableEq, Repr

/-- Which rules run. -/
structure RuleChoice where
  /-- Patterns of the rules to run; none means all rules. -/
  enable : List String := []
  /-- Patterns of the rules not to run; they win. -/
  disable : List String := []
deriving DecidableEq, Repr

/-- What to check and how strictly. -/
structure Config where
  rules : RuleChoice := {}
  /-- Patterns of the files to leave out when directories are searched. -/
  exclude : List String := []
  thresholds : Thresholds := {}
deriving DecidableEq, Repr

/-- Whether a pattern means the rule with an identifier. -/
def patternMeans (pattern id : String) : Bool :=
  if pattern.toList.getLast? = some '*' then pattern.toList.dropLast.isPrefixOf id.toList
  else pattern == id

/-- Whether the rule with an identifier runs. -/
def Config.enables (c : Config) (id : String) : Bool :=
  !c.rules.disable.any (patternMeans · id) &&
    (c.rules.enable.isEmpty || c.rules.enable.any (patternMeans · id))

/-- Whether a file is left out when directories are searched. -/
def Config.excludes (c : Config) (path : String) : Bool :=
  c.exclude.any (Glob.isMatch · path)

end WorkflowLint
