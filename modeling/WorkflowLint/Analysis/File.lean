import WorkflowLint.Analysis
import WorkflowLint.Project.File

/-!
# `WorkflowLint.Analysis.File`: analyses of files

A file can be analysed when it can be read and is a document. The project file
contributes to the analysis if it is of any use and never stands in its way.
-/

set_option autoImplicit false

namespace WorkflowLint

/-- Why a file cannot be analysed. -/
inductive AnalysisError where
  | unreadable (path : String) (e : FileError)
  | malformed (path : String) (e : Xml.Error)
deriving DecidableEq, Repr

/-- The complaint in words. -/
def AnalysisError.message : AnalysisError → String
  | unreadable path e => "Failed to read " ++ path ++ ": " ++ e.message
  | malformed path e => "XML parse error in " ++ path ++ ": " ++ e.message

/-- What comes of a file: an analysis or the reason why there is none, and a
warning if the project file was of no use. -/
structure FileResult where
  result : Except AnalysisError Analysis
  warning? : Option String

namespace Analysis

/-- The analysis of a text as that of a file. -/
def ofText (source path : String) (p : Project) (c : Config) : Except AnalysisError Analysis :=
  match ofSource source path p c with
  | .ok a => .ok a
  | .error e => .error (.malformed path e)

/-- The analysis of a file, with the project in another file. -/
def ofFile (fs : FileSystem) (path : String) (projectFile? : Option String) (c : Config) :
    FileResult :=
  match fs.read path with
  | .error e => ⟨.error (.unreadable path e), none⟩
  | .ok source =>
    let (project, warning?) := Project.loadOrDefault fs projectFile?
    ⟨ofText source path project c, warning?⟩

end Analysis

end WorkflowLint
