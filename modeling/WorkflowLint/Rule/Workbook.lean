import WorkflowLint.Rule.Basic

/-!
# `WorkflowLint.Rule.Workbook`: rules about workbooks

Rules about writing cells and about the paths of workbooks. A path is bound to
one machine if it starts at a network share or names a drive anywhere: a letter,
a colon and a backslash.
-/

set_option autoImplicit false

namespace WorkflowLint.Rule

/-- A cell written at a row that depends on earlier runs. -/
def autoIncrement (s : Subject) : List Issue :=
  ((s.document.ofKind .writeCell).filter fun e =>
    e.attr? "AutoIncrementRow" == some "True").map fun e =>
      let text := e.display "Write Cell"
      { rule := "XL-002"
        severity := .medium
        category := .excelOperations
        title := "Risky auto-increment"
        description := s!"'{text}' uses AutoIncrementRow, which makes the written row depend on " ++
          "previous runs."
        location := e.located
        solution := "Write to an explicit row index instead of relying on AutoIncrementRow." }

/-- The elements that name a workbook, with the path they name. -/
def workbookPaths (d : Document) : List (Xml.Element × String) :=
  d.elements.filterMap fun e => (e.attr? "WorkbookPath").map fun path => (e, path)

/-- Whether a drive is named somewhere in a list of characters. -/
def namesDrive : List Char → Bool
  | c :: ':' :: '\\' :: rest => c.isAlpha || namesDrive (':' :: '\\' :: rest)
  | _ :: rest => namesDrive rest
  | [] => false

/-- A workbook that only one machine has. -/
def hardcodedPaths (s : Subject) : List Issue :=
  ((workbookPaths s.document).filter fun p =>
    namesDrive p.2.toList || Text.startsWith "\\\\" p.2).map fun p =>
      let path := p.2
      { rule := "PATH-001"
        severity := .medium
        category := .filePaths
        title := "Hardcoded file path"
        description := s!"The workbook path '{path}' only exists on one machine."
        location := p.1.located
        solution := "Build the path from a config value or with " ++
          "Path.Combine(Environment.CurrentDirectory, ...)." }

/-- Misspelled words in paths, each with its right spelling. -/
def misspellings : List (String × String) := [("Auxilliary", "Auxiliary")]

/-- A misspelled word in a workbook's path. -/
def knownMisspellings (s : Subject) : List Issue :=
  (workbookPaths s.document).flatMap fun p =>
    (misspellings.filter fun m => Text.occurs m.1 p.2).map fun m =>
      let wrong := m.1
      let right := m.2
      let path := p.2
      { rule := "PATH-002"
        severity := .low
        category := .filePaths
        title := "Misspelled path"
        description := s!"'{wrong}' in '{path}' should be '{right}'."
        location := p.1.located
        solution := "Rename the folder and update the path." }

end WorkflowLint.Rule
