import WorkflowLint.FileSystem
import WorkflowLint.Project.Encoding

/-!
# `WorkflowLint.Project.File`: project files

The project file of a workflow stands in the same directory. A project file that
cannot be read or understood is as good as none, apart from a warning.
-/

set_option autoImplicit false

namespace WorkflowLint.Project

/-- Why a project file is of no use. -/
inductive FileFault where
  | unreadable (e : FileError)
  | malformed (e : Json.Error)

/-- The complaint in words. -/
def FileFault.message : FileFault → String
  | unreadable e => "IO error: " ++ e.message
  | malformed e => "JSON parse error: " ++ e.message

/-- The project in a file. -/
def load (fs : FileSystem) (path : String) : Except FileFault Project :=
  match fs.read path with
  | .error e => .error (.unreadable e)
  | .ok text =>
    match ofText text with
    | .error e => .error (.malformed e)
    | .ok p => .ok p

/-- The project file beside a workflow, if there is one. -/
def find? (fs : FileSystem) (workflow : String) : Option String := do
  let directory ← Path.parent? workflow
  let path := Path.join directory fileName
  if fs.isFile path then some path else none

/-- The project in a file that may be missing, and a warning if the file is of no
use. -/
def loadOrDefault (fs : FileSystem) : Option String → Project × Option String
  | none => ({}, none)
  | some path =>
    match load fs path with
    | .ok p => (p, none)
    | .error e => ({}, some ("Ignoring project metadata " ++ path ++ ": " ++ e.message))

end WorkflowLint.Project
