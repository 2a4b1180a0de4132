import WorkflowLint.Config
import WorkflowLint.FileSystem
import WorkflowLint.Text.Case

/-!
# `WorkflowLint.CommandLine.Inputs`: the workflows that paths mean

A path that means a file is taken as it is. A path that means a directory stands
for the workflow files below it, those left out that the configuration excludes.
The files are put in the order of their paths, and of several with the same path
only the first remains.
-/

set_option autoImplicit false

namespace WorkflowLint.CommandLine

/-- The files that paths mean, and the paths that mean nothing. -/
structure Inputs where
  files : List String
  missing : List String
deriving DecidableEq, Repr

/-- The extension of workflow files. -/
def workflowExtension : String := "xaml"

/-- Whether a file is a workflow, going by its extension. -/
def isWorkflow (path : String) : Bool :=
  (Path.extension? path).any (Text.equalIgnoringAsciiCase workflowExtension)

/-- The workflow files below a directory, those left out that are excluded. -/
def workflowsBelow (fs : FileSystem) (c : Config) (directory : String) : List String :=
  (fs.filesBelow directory).filter fun p => isWorkflow p && !c.excludes p

/-- The files that a path means. -/
def filesOfPath (fs : FileSystem) (c : Config) (path : String) : List String :=
  if fs.isFile path then [path]
  else if fs.isDirectory path then workflowsBelow fs c path
  else []

/-- Whether a path means neither a file nor a directory. -/
def isMissing (fs : FileSystem) (path : String) : Bool := !fs.isFile path && !fs.isDirectory path

/-- A path and a list behind it, without the members that are the same path as the
one that remains in front of them. -/
def distinctAfter (p : String) : List String → List String
  | [] => [p]
  | q :: rest => if Path.same p q then distinctAfter p rest else p :: distinctAfter q rest

/-- A list without the members that are the same path as the one that remains in
front of them. -/
def distinct : List String → List String
  | [] => []
  | p :: rest => distinctAfter p rest

/-- The files that paths mean, in the order of their paths and each one once. -/
def Inputs.collect (fs : FileSystem) (c : Config) (paths : List String) : Inputs where
  files := distinct ((paths.flatMap (filesOfPath fs c)).mergeSort Path.le)
  missing := paths.filter (isMissing fs)

end WorkflowLint.CommandLine
