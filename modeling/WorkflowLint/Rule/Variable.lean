import WorkflowLint.Rule.Basic
import WorkflowLint.Text.Word

/-!
# `WorkflowLint.Rule.Variable`: rules about declared variables

A variable's name is one of two shapes: words that start with a capital, or the
same with a first word in small letters. A capitalised word goes on with small
letters or digits. Short names are not looked at.

A variable is used if its name stands in the source as a whole word more than
once: the declaration itself is one of the places. Mentions in comments and in
unrelated texts count.
-/

set_option autoImplicit false

namespace WorkflowLint.Rule

/-- A letter or digit that a capitalised word may go on with. -/
def isSmall (c : Char) : Bool := c.isLower || c.isDigit

/-- Whether a list consists of capitalised words only. -/
def isCapitalised (s : List Char) : Bool :=
  match s with
  | [] => true
  | c :: rest =>
    c.isUpper && !(rest.takeWhile isSmall).isEmpty && isCapitalised (rest.dropWhile isSmall)
termination_by s.length
decreasing_by
  have h : (rest.dropWhile isSmall).length ≤ rest.length := (List.dropWhile_suffix isSmall).length_le
  simp only [List.length_cons]
  omega

/-- Whether a name has one of the two shapes. -/
def isConventional (name : List Char) : Bool :=
  (!(name.takeWhile Char.isLower).isEmpty && isCapitalised (name.dropWhile Char.isLower)) ||
    (!name.isEmpty && isCapitalised name)

/-- Names shorter than this are not looked at. -/
def minCheckedNameLength : Nat := 4

/-- A variable whose name has neither shape. -/
def variableNaming (s : Subject) : List Issue :=
  (s.facts.declared.filter fun v =>
    v.name.length ≥ minCheckedNameLength && !isConventional v.name.toList).map fun v =>
      let name := v.name
      { rule := "MAINT-002"
        severity := .low
        category := .namingConvention
        title := "Naming convention"
        description := s!"Variable '{name}' does not follow the naming convention."
        location := declarations
        solution := "Use camelCase (customerName) or PascalCase (CustomerName)." }

/-- A variable that is not mentioned apart from its declaration. -/
def unusedVariables (s : Subject) : List Issue :=
  let source := s.document.source.toList
  (s.facts.declared.filter fun v => Text.countWhole v.name.toList none source ≤ 1).map fun v =>
      let name := v.name
      let type := v.type
      { rule := "LOGIC-005"
        severity := .low
        category := .codeSmell
        title := "Unused variable"
        description := s!"Variable '{name}' ({type}) is declared but never used."
        location := declarations
        solution := "Remove the variable to keep the workflow clean." }

end WorkflowLint.Rule
