/-!
# `WorkflowLint.Issue`: problems found in workflows

An issue says what is wrong, how bad it is, where it is and what to do about it,
and names the rule that reports it by the rule's identifier.
-/

set_option autoImplicit false

namespace WorkflowLint

/-- How bad a problem is. -/
inductive Severity where
  | low
  | medium
  | high
  | critical
deriving DecidableEq, Repr

namespace Severity

/-- The rank of a severity; worse is higher. -/
def rank : Severity → Nat
  | low => 1
  | medium => 2
  | high => 3
  | critical => 4

/-- The name of a severity. -/
def label : Severity → String
  | low => "Low"
  | medium => "Medium"
  | high => "High"
  | critical => "Critical"

/-- The name of a severity in small letters. -/
def smallLabel : Severity → String
  | low => "low"
  | medium => "medium"
  | high => "high"
  | critical => "critical"

/-- All severities, the worst first. -/
def descending : List Severity := [critical, high, medium, low]

/-- All severities, the mildest first. -/
def ascending : List Severity := [low, medium, high, critical]

/-- The severity with a name. -/
def ofLabel? (s : String) : Option Severity := ascending.find? fun v => v.label == s

end Severity

/-- What a problem is about. -/
inductive Category where
  | errorHandling
  | performance
  | excelOperations
  | browserOperations
  | logging
  | selectors
  | timing
  | filePaths
  | namingConvention
  | logicError
  | codeSmell
deriving DecidableEq, Repr

namespace Category

/-- The name of a category. -/
def label : Category → String
  | errorHandling => "Error Handling"
  | performance => "Performance"
  | excelOperations => "Excel Operations"
  | browserOperations => "Browser Operations"
  | logging => "Logging"
  | selectors => "Selectors"
  | timing => "Timing"
  | filePaths => "File Paths"
  | namingConvention => "Naming Convention"
  | logicError => "Logic Error"
  | codeSmell => "Code Smell"

/-- All categories. -/
def all : List Category :=
  [errorHandling, performance, excelOperations, browserOperations, logging, selectors, timing,
   filePaths, namingConvention, logicError, codeSmell]

/-- The category with a name. -/
def ofLabel? (s : String) : Option Category := all.find? fun c => c.label == s

end Category

/-- What a rule has to say. -/
structure Issue where
  /-- The identifier of the rule. -/
  rule : String
  severity : Severity
  category : Category
  title : String
  description : String
  location : String
  solution : String
deriving DecidableEq, Repr

end WorkflowLint
