import WorkflowLint.Json.Decode
import WorkflowLint.Project

/-!
# `WorkflowLint.Project.Encoding`: project files as JSON

The name, the description and the version may be missing or `null`. A package's
version is usually a text; any other value is kept as its compact JSON.
-/

set_option autoImplicit false

namespace WorkflowLint.Project

open Json.Decode (Decoder RecordField)

/-- A package's version as a text. -/
def versionText : Json → String
  | .string s => s
  | v => v.canonical.compact

/-- A field that holds a text or `null`. -/
def textField (name absent : String) (set : Project → String → Project) : RecordField Project :=
  ⟨name, fun p r => do
    let s ← Json.Decode.nullable Json.Decode.string r
    return set p (s.getD absent)⟩

/-- The packages with their versions. They lie inside two objects. -/
def packages : Decoder (Table String) := fun r => do
  let t ← Json.Decode.table (Json.Decode.any 2) r
  return t.map fun _ v => versionText v

/-- The fields of a project. -/
def fields : List (RecordField Project) :=
  [textField "name" unknown fun p s => { p with name := s },
   textField "description" "" fun p s => { p with description := s },
   textField "projectVersion" "" fun p s => { p with version := s },
   ⟨"dependencies", fun p r => do return { p with dependencies := ← packages r }⟩]

/-- A project from JSON. -/
def decode : Decoder Project := Json.Decode.record "struct RawProject" fields {}

/-- The project that a text describes. -/
def ofText (s : String) : Except Json.Error Project := Json.Decode.fromText decode s

end WorkflowLint.Project
