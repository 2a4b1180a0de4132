import WorkflowLint.Analysis
import WorkflowLint.Json.Shape

/-!
# `WorkflowLint.Analysis.Encoding`: analyses as JSON

Every field of an analysis is a member of an object, under a name of its own. An
analysis is read back from such an object, where other members do not matter, or
from a list of the fields in their order. Of the fields only the database
connections, and of an activity's fields only its attributes, may be missing.
-/

set_option autoImplicit false

namespace WorkflowLint

/-! ### Writing -/

/-- An activity as JSON. -/
def Activity.toJson (a : Activity) : Json :=
  .object
    [("name", .string a.name), ("type", .string a.tag), ("purpose", .string a.purpose),
     ("attributes", .ofTable a.attributes)]

/-- An issue as JSON. -/
def Issue.toJson (i : Issue) : Json :=
  .object
    [("rule_id", .string i.rule), ("severity", .string i.severity.label),
     ("category", .string i.category.label), ("title", .string i.title),
     ("description", .string i.description), ("location", .string i.location),
     ("solution", .string i.solution)]

namespace Analysis

/-- The members that an analysis has as an object. -/
def members (a : Analysis) : List (String × Json) :=
  [("file", .string a.file),
   ("workflow_name", .string a.workflowName),
   ("workflow_purpose", .string a.workflowPurpose),
   ("activities", .array (a.activities.map Activity.toJson)),
   ("variables", .ofStrings a.declared),
   ("issues", .array (a.issues.map Issue.toJson)),
   ("recommendations", .ofStrings a.recommendations),
   ("dependencies", .ofTable a.dependencies),
   ("urls", .ofStrings a.urls.toList),
   ("database_connections", .ofStrings a.connections.toList),
   ("components", .ofStrings a.components.toList),
   ("prose_summary", .string a.summary),
   ("health_score", .ofFloat a.healthScore)]

/-- An analysis as JSON. -/
def toJson (a : Analysis) : Json := .object a.members

end Analysis

/-! ### Reading -/

/-- The severity that a value says. -/
def Severity.ofJson (v : Json) : Except Json.Error Severity :=
  v.variant (ascending.map fun s => (s.label, s))

/-- The category that a value says. -/
def Category.ofJson (v : Json) : Except Json.Error Category :=
  v.variant (all.map fun c => (c.label, c))

/-- The activity that a value is. -/
def Activity.ofJson? (v : Json) : Option Activity := do
  match ← v.fields? ["name", "type", "purpose", "attributes"] with
  | [name, tag, purpose, attributes] =>
    some
      { name := ← (← name).string?
        tag := ← (← tag).string?
        purpose := ← (← purpose).string?
        attributes := ← (attributes.map Json.table?).getD (some .empty) }
  | _ => none

/-- The issue that a value is. -/
def Issue.ofJson? (v : Json) : Option Issue := do
  match ← v.fields?
      ["rule_id", "severity", "category", "title", "description", "location", "solution"] with
  | [rule, severity, category, title, description, location, solution] =>
    some
      { rule := ← (← rule).string?
        severity := ← (Severity.ofJson (← severity)).toOption
        category := ← (Category.ofJson (← category)).toOption
        title := ← (← title).string?
        description := ← (← description).string?
        location := ← (← location).string?
        solution := ← (← solution).string? }
  | _ => none

namespace Analysis

/-- The names of the fields, in their order. -/
def fieldNames : List String :=
  ["file", "workflow_name", "workflow_purpose", "activities", "variables", "issues",
   "recommendations", "dependencies", "urls", "database_connections", "components",
   "prose_summary", "health_score"]

/-- The texts that a value lists. -/
def texts? (v : Json) : Option (List String) := v.list? Json.string?

/-- The set of the texts that a value lists. -/
def words? (v : Json) : Option Words := (texts? v).map .ofList

/-- The analysis that a value is. -/
def ofJson? (v : Json) : Option Analysis := do
  match ← v.fields? fieldNames with
  | [file, workflowName, workflowPurpose, activities, declared, issues, recommendations,
      dependencies, urls, connections, components, summary, healthScore] =>
    some
      { file := ← (← file).string?
        workflowName := ← (← workflowName).string?
        workflowPurpose := ← (← workflowPurpose).string?
        activities := ← (← activities).list? Activity.ofJson?
        declared := ← texts? (← declared)
        issues := ← (← issues).list? Issue.ofJson?
        recommendations := ← texts? (← recommendations)
        dependencies := ← (← dependencies).table?
        urls := ← words? (← urls)
        connections := ← (connections.map words?).getD (some .empty)
        components := ← words? (← components)
        summary := ← (← summary).string?
        healthScore := ← (← healthScore).float? }
  | _ => none

end Analysis

end WorkflowLint
