import WorkflowLint.Insight.Purpose
import WorkflowLint.Insight.Recommendation
import WorkflowLint.Insight.Score
import WorkflowLint.Project
import WorkflowLint.Rule.Catalogue

/-!
# `WorkflowLint.Analysis`: all that is found out about a workflow

An analysis is made once from a workflow's text, the project around it and a
configuration, and is what every report shows. The project contributes its name
and its packages and nothing else; the configuration decides which issues are
listed, and through them the score.
-/

set_option autoImplicit false

namespace WorkflowLint

/-- All that is found out about a workflow. -/
structure Analysis where
  file : String
  workflowName : String
  workflowPurpose : String
  activities : List Activity
  /-- The declared variables in words. -/
  declared : List String
  issues : List Issue
  recommendations : List String
  dependencies : Table String
  urls : Words
  connections : Words
  /-- The distinct tags of the activities. -/
  components : Words
  summary : String
  healthScore : Float

namespace Analysis

/-- The analysis of a document. -/
def ofDocument (d : Document) (p : Project) (c : Config) : Analysis :=
  let facts := Facts.ofDocument d
  let issues := Subject.issues ⟨d, facts, c.thresholds⟩ c
  { file := d.file
    workflowName := p.name
    workflowPurpose := Insight.purpose facts.activities
    activities := facts.activities
    declared := facts.declared.map (·.text)
    issues := issues
    recommendations := Insight.recommendations facts.activities c.thresholds
    dependencies := p.dependencies
    urls := facts.urls
    connections := facts.connections
    components := facts.components
    summary := Insight.summary facts.activities
    healthScore := WorkflowLint.healthScore issues }

/-- The analysis of a text that was found under a path. -/
def ofSource (source file : String) (p : Project) (c : Config) : Except Xml.Error Analysis := do
  return ofDocument (← Document.read source file) p c

/-- The rating of the score. -/
def rating (a : Analysis) : Rating := .ofScore a.healthScore

/-- The issues of a severity, in their order. -/
def issuesOf (a : Analysis) (s : Severity) : List Issue :=
  a.issues.filter fun i => i.severity == s

/-- How many issues of a severity there are. -/
def count (a : Analysis) (s : Severity) : Nat := (a.issuesOf s).length

end Analysis

/-- Two analyses that agree in every field; scores are compared as numbers. -/
instance : BEq Analysis where
  beq a b :=
    a.file == b.file && a.workflowName == b.workflowName &&
    a.workflowPurpose == b.workflowPurpose && a.activities == b.activities &&
    a.declared == b.declared && a.issues == b.issues &&
    a.recommendations == b.recommendations && a.dependencies == b.dependencies &&
    a.urls == b.urls && a.connections == b.connections && a.components == b.components &&
    a.summary == b.summary && a.healthScore == b.healthScore

end WorkflowLint
