import WorkflowLint.Facts

/-!
# `WorkflowLint.Project`: what is known of the project around a workflow

A project file stands beside the workflows of a project and names the project
and the packages it needs. It is context only: a workflow is analysed just as
well without it.
-/

set_option autoImplicit false

namespace WorkflowLint

/-- What a project file says. -/
structure Project where
  name : String := unknown
  description : String := ""
  version : String := ""
  /-- The packages that the project needs, with their versions. -/
  dependencies : Table String := .empty
deriving DecidableEq

/-- The name of project files. -/
def Project.fileName : String := "project.json"

end WorkflowLint
