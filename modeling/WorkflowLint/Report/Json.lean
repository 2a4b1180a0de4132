import WorkflowLint.Analysis.Encoding
import WorkflowLint.Report.Basic
import WorkflowLint.Report.Stamp

/-!
# `WorkflowLint.Report.Json`: reports for programs

A report for programs holds each analysis as an object, together with metadata
on the report. One analysis is shown as it is, any other number of them as a
list. Reading such a report back gives the analyses and ignores the metadata.
-/

set_option autoImplicit false

namespace WorkflowLint.Report

/-! ### Writing -/

/-- The number of issues, in total and by severity. -/
def summaryJson (a : Analysis) : WorkflowLint.Json :=
  .object
    (("total", .ofNat a.issues.length) ::
      Severity.descending.map fun s => (s.smallLabel, .ofNat (a.count s)))

/-- What a report says about itself. -/
def metadataJson (stamp : Stamp) (a : Analysis) : WorkflowLint.Json :=
  .object
    [("tool", .string toolName), ("version", .string toolVersion),
     ("generated", .string stamp.instant), ("rating", .string a.rating.label),
     ("summary", summaryJson a)]

/-- An analysis with the metadata in front. -/
def entryJson (stamp : Stamp) (a : Analysis) : WorkflowLint.Json :=
  .object (("metadata", metadataJson stamp a) :: a.members)

/-- A report for programs as a value. -/
def reportJson (stamp : Stamp) : List Analysis → WorkflowLint.Json
  | [a] => entryJson stamp a
  | analyses => .array (analyses.map (entryJson stamp))

/-- A report for programs. -/
def json (stamp : Stamp) (analyses : List Analysis) : String := (reportJson stamp analyses).pretty

/-! ### Reading -/

/-- The analyses in a value: one analysis, or else a list of them. -/
def analyses? (v : WorkflowLint.Json) : Option (List Analysis) :=
  match Analysis.ofJson? v with
  | some a => some [a]
  | none => v.list? Analysis.ofJson?

/-- The analyses in a report for programs. -/
def read : String → Except WorkflowLint.Json.Error (List Analysis) :=
  WorkflowLint.Json.Decode.fromText fun r => do
    let v ← WorkflowLint.Json.Decode.any 0 r
    match analyses? v with
    | some l => .ok l
    | none => .error (.noShape "JsonDocument")

end WorkflowLint.Report
