/-!
# `WorkflowLint.Kind`: the kinds of activities

An activity is known by the name of its element. Some activities have an older
and a newer spelling of their name, which mean the same kind; names that are not
in the table are kinds of their own. `Kind.ofTag` and `Kind.tags` are the two
directions of one table: a name belongs to a kind exactly when it is one of the
kind's spellings.
-/

set_option autoImplicit false

namespace WorkflowLint

/-- What an activity is. -/
inductive Kind where
  | sequence
  | flowchart
  | tryCatch
  | catchBlock
  | branch
  | forEachRow
  | logMessage
  | delay
  | excelApplicationCard
  | excelProcessScope
  | useExcelFile
  | readRange
  | writeCell
  | saveExcelFile
  | applicationCard
  | useApplicationBrowser
  | openBrowser
  | attachBrowser
  | click
  | modernClick
  | typeInto
  | modernTypeInto
  | getText
  | modernGetText
  | targetAnchorable
  | variableDeclaration
  | databaseConnect
  /-- An activity that is not in the table. -/
  | other (tag : String)
deriving DecidableEq, Repr

namespace Kind

/-- The kind of the activity with a name. -/
def ofTag : String → Kind
  | "Sequence" => sequence
  | "Flowchart" => flowchart
  | "TryCatch" => tryCatch
  | "Catch" => catchBlock
  | "If" => branch
  | "ForEachRow" => forEachRow
  | "LogMessage" => logMessage
  | "Delay" => delay
  | "ExcelApplicationCard" => excelApplicationCard
  | "ExcelProcessScope" => excelProcessScope
  | "ExcelProcessScopeX" => excelProcessScope
  | "UseExcelFile" => useExcelFile
  | "ReadRange" => readRange
  | "ReadRangeX" => readRange
  | "WriteCell" => writeCell
  | "WriteCellX" => writeCell
  | "SaveExcelFile" => saveExcelFile
  | "SaveExcelFileX" => saveExcelFile
  | "NApplicationCard" => applicationCard
  | "UseApplicationBrowser" => useApplicationBrowser
  | "OpenBrowser" => openBrowser
  | "AttachBrowser" => attachBrowser
  | "Click" => click
  | "NClick" => modernClick
  | "TypeInto" => typeInto
  | "NTypeInto" => modernTypeInto
  | "GetText" => getText
  | "NGetText" => modernGetText
  | "TargetAnchorable" => targetAnchorable
  | "Variable" => variableDeclaration
  | "DatabaseConnect" => databaseConnect
  | tag => other tag

/-- The spellings of a kind's name, the common one first. -/
def tags : Kind → List String
  | sequence => ["Sequence"]
  | flowchart => ["Flowchart"]
  | tryCatch => ["TryCatch"]
  | catchBlock => ["Catch"]
  | branch => ["If"]
  | forEachRow => ["ForEachRow"]
  | logMessage => ["LogMessage"]
  | delay => ["Delay"]
  | excelApplicationCard => ["ExcelApplicationCard"]
  | excelProcessScope => ["ExcelProcessScope", "ExcelProcessScopeX"]
  | useExcelFile => ["UseExcelFile"]
  | readRange => ["ReadRange", "ReadRangeX"]
  | writeCell => ["WriteCell", "WriteCellX"]
  | saveExcelFile => ["SaveExcelFile", "SaveExcelFileX"]
  | applicationCard => ["NApplicationCard"]
  | useApplicationBrowser => ["UseApplicationBrowser"]
  | openBrowser => ["OpenBrowser"]
  | attachBrowser => ["AttachBrowser"]
  | click => ["Click"]
  | modernClick => ["NClick"]
  | typeInto => ["TypeInto"]
  | modernTypeInto => ["NTypeInto"]
  | getText => ["GetText"]
  | modernGetText => ["NGetText"]
  | targetAnchorable => ["TargetAnchorable"]
  | variableDeclaration => ["Variable"]
  | databaseConnect => ["DatabaseConnect"]
  | other tag => [tag]

/-- Whether the activity works in a browser or on a screen. -/
def isWeb : Kind → Bool
  | openBrowser | useApplicationBrowser | click | modernClick | typeInto | modernTypeInto
  | getText | modernGetText => true
  | _ => false

/-- Whether the activity works on a spreadsheet. -/
def isSpreadsheet : Kind → Bool
  | readRange | writeCell | excelApplicationCard | excelProcessScope | useExcelFile => true
  | _ => false

/-- Whether the activity holds a workbook open for the activities inside it. -/
def isExcelScope : Kind → Bool
  | excelApplicationCard | excelProcessScope => true
  | _ => false

/-- Whether the activity waits for a screen and so should carry a timeout. -/
def isInteraction : Kind → Bool
  | click | typeInto | modernClick | modernTypeInto | modernGetText | openBrowser
  | attachBrowser | useApplicationBrowser => true
  | _ => false

/-- Whether the activity is a click. -/
def isClick : Kind → Bool
  | click | modernClick => true
  | _ => false

/-- Whether the activity only holds other activities. -/
def isContainer : Kind → Bool
  | sequence | flowchart => true
  | _ => false

/-- What an activity of the kind does, in words. -/
def purpose : Kind → String
  | sequence => "Runs its child activities in order"
  | flowchart => "Runs activities along flowchart connections"
  | tryCatch => "Catches and handles exceptions"
  | branch => "Branches on a condition"
  | forEachRow => "Loops over every row of a data table"
  | logMessage => "Writes a log entry"
  | delay => "Pauses execution"
  | excelApplicationCard | excelProcessScope => "Opens an Excel workbook for nested activities"
  | useExcelFile => "Opens an Excel file for nested activities"
  | readRange => "Reads an Excel range"
  | writeCell => "Writes a value to an Excel cell"
  | saveExcelFile => "Saves the open Excel workbook"
  | applicationCard | useApplicationBrowser => "Opens or attaches to an application or browser"
  | openBrowser => "Opens a browser session"
  | attachBrowser => "Attaches to an open browser"
  | click | modernClick => "Clicks a UI element"
  | typeInto | modernTypeInto => "Types text into a UI element"
  | getText | modernGetText => "Reads text from a UI element"
  | databaseConnect => "Connects to a database"
  | catchBlock | targetAnchorable | variableDeclaration | other _ => "Unknown activity"

end Kind

end WorkflowLint
