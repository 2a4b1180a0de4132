import WorkflowLint.Config
import WorkflowLint.Json.Decode

/-!
# `WorkflowLint.Config.Encoding`: configurations as JSON

A configuration names only what differs from the defaults; everything else keeps
its default, also inside the rules and the thresholds.
-/

set_option autoImplicit false

namespace WorkflowLint

open Json.Decode (Decoder RecordField)

/-! ### Reading -/

/-- A field that holds a list of patterns. -/
def patternsField {σ : Type} (name : String) (set : σ → List String → σ) : RecordField σ :=
  ⟨name, fun start r => (Json.Decode.list Json.Decode.string r).map (set start)⟩

/-- A field that holds a count. -/
def countField {σ : Type} (name : String) (set : σ → Nat → σ) : RecordField σ :=
  ⟨name, fun start r => (Json.Decode.count r).map (set start)⟩

namespace Thresholds

/-- The fields of thresholds. -/
def fields : List (RecordField Thresholds) :=
  [countField "maxNestingDepth" fun t n => { t with maxNestingDepth := n },
   countField "maxUrlQueryLength" fun t n => { t with maxUrlQueryLength := n },
   countField "minLoopLogMessages" fun t n => { t with minLoopLogMessages := n },
   countField "minLogMessages" fun t n => { t with minLogMessages := n },
   countField "maxActivitiesWithoutTryCatch" fun t n =>
     { t with maxActivitiesWithoutTryCatch := n }]

/-- Thresholds from JSON. -/
def decode : Decoder Thresholds := Json.Decode.record "struct Thresholds" fields {}

end Thresholds

namespace RuleChoice

/-- The fields of a choice of rules. -/
def fields : List (RecordField RuleChoice) :=
  [patternsField "enable" fun c l => { c with enable := l },
   patternsField "disable" fun c l => { c with disable := l }]

/-- A choice of rules from JSON. -/
def decode : Decoder RuleChoice := Json.Decode.record "struct RulesConfig" fields {}

end RuleChoice

namespace Config

/-- The fields of a configuration. -/
def fields : List (RecordField Config) :=
  [⟨"rules", fun c r => (RuleChoice.decode r).map fun x => { c with rules := x }⟩,
   patternsField "exclude" fun c l => { c with exclude := l },
   ⟨"thresholds", fun c r => (Thresholds.decode r).map fun x => { c with thresholds := x }⟩]

/-- A configuration from JSON. -/
def decode : Decoder Config := Json.Decode.record "struct Config" fields {}

/-- The configuration that a text describes. -/
def ofText (s : String) : Except Json.Error Config := Json.Decode.fromText decode s

end Config

/-! ### Writing -/

/-- Thresholds as JSON. -/
def Thresholds.toJson (t : Thresholds) : Json :=
  .object
    [("maxNestingDepth", .ofNat t.maxNestingDepth),
     ("maxUrlQueryLength", .ofNat t.maxUrlQueryLength),
     ("minLoopLogMessages", .ofNat t.minLoopLogMessages),
     ("minLogMessages", .ofNat t.minLogMessages),
     ("maxActivitiesWithoutTryCatch", .ofNat t.maxActivitiesWithoutTryCatch)]

/-- A choice of rules as JSON. -/
def RuleChoice.toJson (c : RuleChoice) : Json :=
  .object [("enable", .ofStrings c.enable), ("disable", .ofStrings c.disable)]

/-- A configuration as JSON. -/
def Config.toJson (c : Config) : Json :=
  .object
    [("rules", c.rules.toJson), ("exclude", .ofStrings c.exclude),
     ("thresholds", c.thresholds.toJson)]

end WorkflowLint
