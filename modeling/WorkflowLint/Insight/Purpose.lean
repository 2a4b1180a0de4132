import WorkflowLint.Facts

/-!
# `WorkflowLint.Insight.Purpose`: what a workflow seems to be for

The kinds of activities that occur in a workflow suggest what it does. Only
whether a kind occurs counts, not how often or where, so the label and the
summary of a workflow do not change when activities are reordered or repeated.
-/

set_option autoImplicit false

namespace WorkflowLint.Insight

/-- Whether an activity of a kind that satisfies `p` occurs. -/
def occurs (activities : List Activity) (p : Kind → Bool) : Bool :=
  activities.any fun a => p a.kind

/-- Whether an activity of a kind occurs. -/
def has (activities : List Activity) (k : Kind) : Bool := occurs activities (· == k)

/-- The label of a workflow that shows no special purpose. -/
def generalPurpose : String := "General Workflow"

/-- The labels of a workflow's purposes, in a fixed order. -/
def labels (activities : List Activity) : List String :=
  (if occurs activities Kind.isWeb then ["Web Automation"] else []) ++
  (if occurs activities Kind.isSpreadsheet then ["Spreadsheet Processing"] else []) ++
  (if has activities .forEachRow then ["Bulk Processing"] else [])

/-- A short label of what a workflow does. -/
def purpose (activities : List Activity) : String :=
  let found := labels activities
  if found.isEmpty then generalPurpose else ", ".intercalate found

/-- The last sentence of every summary. -/
def disclaimer : String :=
  "This summary is an automatic inference based on activity types " ++
  "and may not fully reflect the workflow's logic."

/-- The first sentence of a summary: what the workflow works on. -/
def opening (web spreadsheet : Bool) : String :=
  match web, spreadsheet with
  | true, true =>
    "This workflow looks like a mixed automation that moves data between an Excel file " ++
    "and a web application."
  | true, false =>
    "This workflow is a UI automation that interacts with a website or desktop application."
  | false, true => "This workflow reads, writes or edits data in an Excel file."
  | false, false => "This is a general workflow that runs its steps in a defined order."

/-- How the process starts, where that can be told. -/
def start (activities : List Activity) : List String :=
  if has activities .openBrowser || has activities .useApplicationBrowser then
    ["The process starts by opening a web browser or attaching to an existing one."]
  else if occurs activities Kind.isExcelScope || has activities .useExcelFile then
    ["The process starts by opening an Excel file."]
  else []

/-- What is done along the way, in a fixed order. -/
def operations (activities : List Activity) : List String :=
  (if occurs activities Kind.isClick then ["clicking buttons"] else []) ++
  (if has activities .typeInto || has activities .modernTypeInto then
    ["entering data into form fields"] else []) ++
  (if has activities .getText || has activities .modernGetText then
    ["reading text from the screen"] else []) ++
  (if has activities .readRange then ["reading ranges from Excel"] else []) ++
  (if has activities .writeCell then ["writing single cells to Excel"] else [])

/-- The sentences of a workflow's summary. -/
def sentences (activities : List Activity) : List String :=
  if activities.isEmpty then
    ["Not enough activities were found to summarize the workflow.", disclaimer]
  else
    [opening (occurs activities Kind.isWeb) (occurs activities Kind.isSpreadsheet)] ++
    start activities ++
    (if has activities .forEachRow then
      ["It then repeats a series of actions for every row of a data table."] else []) ++
    (let done := operations activities
     if done.isEmpty then [] else
      ["Key operations include " ++ ", ".intercalate done ++ "."]) ++
    (if has activities .tryCatch then
      ["It uses Try Catch blocks to handle errors, which makes it more resilient to runtime " ++
       "failures."] else []) ++
    [disclaimer]

/-- A paragraph that says what a workflow appears to do. -/
def summary (activities : List Activity) : String := " ".intercalate (sentences activities)

end WorkflowLint.Insight
