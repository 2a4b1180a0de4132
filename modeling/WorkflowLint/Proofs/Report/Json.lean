import WorkflowLint.Proofs.Analysis.Encoding
import WorkflowLint.Proofs.Json.RoundTrip
import WorkflowLint.Proofs.Score
import WorkflowLint.Report.Json

/-!
# `WorkflowLint.Proofs.Report.Json`: reports for programs read back

`read_json` is the round trip of reports: reading a report gives the analyses that
it was made from, in their order, whatever the moment of the report.

The decoder first tries to read a report as one analysis and then as a list of
them, and it takes a record from a list of its fields as well as from an object.
Two facts keep the shapes apart. One analysis is written as an object, in which
the metadata stand under a name that is no field (`ofJson?_entryJson`). A list of
analyses is no analysis by position: its first item, if there is one, is an object
and not the text that the first field is (`ofJson?_array`). So a list of as many
analyses as there are fields is a list like any other.

The text itself is left to `WorkflowLint.Proofs.Json.RoundTrip`, which asks that
the numbers in a report read back: the score, and the counts of the summary. For
the latter the number of issues has to fit into 64 bits, as that of every list in
memory does.
-/

set_option autoImplicit false

namespace WorkflowLint.Report

open WorkflowLint.Json (Readable readable_ofStrings readable_ofNat)

/-- An analysis as the tool makes it: its score is a score, and its issues can be
counted in 64 bits. -/
structure Reportable (a : Analysis) : Prop where
  score : IsScore a.healthScore
  size : a.issues.length < UInt64.size

/-! ### What is written can be read -/

/-- A table of texts can be read: it is an object, one level above its texts. -/
theorem readable_ofTable (room : Nat) (t : Table String) : Readable (room + 1) (.ofTable t) := by
  refine .object fun m hm => ?_
  obtain ⟨e, _, rfl⟩ := List.mem_map.mp hm
  exact .string room e.2

/-- An activity can be read. Its table of attributes is one level deeper than its texts. -/
theorem readable_activity (a : Activity) : Readable 2 a.toJson := by
  refine .object ?_
  simp only [List.forall_mem_cons, List.not_mem_nil, false_implies, implies_true, and_true]
  exact ⟨.string _ _, .string _ _, .string _ _, readable_ofTable _ _⟩

/-- An issue can be read: it is an object of texts. -/
theorem readable_issue (i : Issue) : Readable 1 i.toJson := by
  refine .object ?_
  simp only [List.forall_mem_cons, List.not_mem_nil, false_implies, implies_true, and_true]
  exact ⟨.string _ _, .string _ _, .string _ _, .string _ _, .string _ _, .string _ _, .string _ _⟩

/-- A list can be read if each of its items can be read with one level less. -/
theorem readable_map {α : Type} {room : Nat} {encode : α → WorkflowLint.Json} {l : List α}
    (h : ∀ a ∈ l, Readable room (encode a)) : Readable (room + 1) (.array (l.map encode)) := by
  refine .array fun v hv => ?_
  obtain ⟨a, ha, rfl⟩ := List.mem_map.mp hv
  exact h a ha

/-- The members of an analysis can be read. Only the score is a number, and it is one that reads
back. -/
theorem readable_members {a : Analysis} (h : Reportable a) :
    ∀ m ∈ a.members, Readable 3 m.2 := by
  obtain ⟨k, hk, hscore⟩ := h.score
  have hfloat : Readable 3 (.ofFloat a.healthScore) := by
    rw [hscore]
    exact .number _ (Json.readsBack_score hk)
  have hactivities : Readable 3 (.array (a.activities.map Activity.toJson)) :=
    readable_map fun b _ => readable_activity b
  have hissues : Readable 3 (.array (a.issues.map Issue.toJson)) :=
    (readable_map fun i _ => readable_issue i).mono (by decide)
  simp only [Analysis.members, List.forall_mem_cons, List.not_mem_nil, false_implies,
    implies_true, and_true]
  exact ⟨.string _ _, .string _ _, .string _ _, hactivities, readable_ofStrings _ _, hissues,
    readable_ofStrings _ _, readable_ofTable _ _, readable_ofStrings _ _, readable_ofStrings _ _,
    readable_ofStrings _ _, .string _ _, hfloat⟩

/-- The metadata can be read: no count of a severity is above that of all issues. -/
theorem readable_metadataJson (stamp : Stamp) {a : Analysis} (h : Reportable a) :
    Readable 2 (metadataJson stamp a) := by
  have hcount : ∀ s, a.count s < UInt64.size := fun s =>
    Nat.lt_of_le_of_lt (List.length_filter_le _ _) h.size
  -- The summary holds the number of issues, and one number for each severity.
  have hsummary : Readable 1 (summaryJson a) := by
    refine .object fun m hm => ?_
    rcases List.mem_cons.mp hm with rfl | hm
    · exact readable_ofNat _ h.size
    · obtain ⟨s, _, rfl⟩ := List.mem_map.mp hm
      exact readable_ofNat _ (hcount s)
  refine .object ?_
  simp only [List.forall_mem_cons, List.not_mem_nil, false_implies, implies_true, and_true]
  exact ⟨.string _ _, .string _ _, .string _ _, .string _ _, hsummary⟩

/-- An entry of a report can be read: the metadata need less room than the members of the analysis
behind them. -/
theorem readable_entryJson (stamp : Stamp) {a : Analysis} (h : Reportable a) :
    Readable 4 (entryJson stamp a) := by
  refine .object fun m hm => ?_
  rcases List.mem_cons.mp hm with rfl | hm
  · exact (readable_metadataJson stamp h).mono (by decide)
  · exact readable_members h m hm

/-- A report can be read. A list of several entries is one level deeper than a single entry, and
five levels are far from the limit. -/
theorem readable_reportJson (stamp : Stamp) {analyses : List Analysis}
    (h : ∀ a ∈ analyses, Reportable a) : Readable 5 (reportJson stamp analyses) := by
  have hentry : ∀ a ∈ analyses, Readable 4 (entryJson stamp a) := fun a ha =>
    readable_entryJson stamp (h a ha)
  unfold reportJson
  split
  · exact (hentry _ (by simp)).mono (by decide)
  · exact readable_map hentry

/-! ### Which analyses are read -/

/-- The metadata do not disturb an analysis: the reader looks for fields by name and passes over
what it does not know. -/
theorem ofJson?_entryJson (stamp : Stamp) (a : Analysis) :
    Analysis.ofJson? (entryJson stamp a) = some a :=
  a.ofJson?_object [("metadata", metadataJson stamp a)] (by simp [Analysis.fieldNames])

/-- What is no text in the place of the first field is no analysis. -/
theorem ofJson?_eq_none {v first : WorkflowLint.Json} {rest : List (Option WorkflowLint.Json)}
    (hfields : v.fields? Analysis.fieldNames = some (some first :: rest))
    (hfirst : first.string? = none) : Analysis.ofJson? v = none := by
  rw [Analysis.ofJson?, hfields, Option.bind_eq_bind, Option.bind_some]
  split
  · rename_i heq
    obtain ⟨rfl, -⟩ := List.cons.inj heq
    rw [Option.bind_eq_bind, Option.bind_some, hfirst]
    rfl
  · rfl

/-- A list of objects is no analysis: whatever its length, the first field is
missing or is no text. -/
theorem ofJson?_array (objects : List (List (String × WorkflowLint.Json))) :
    Analysis.ofJson? (.array (objects.map .object)) = none := by
  cases objects with
  | nil => rfl
  | cons first rest =>
      -- A list that is short enough is read by position: its first item, an object, is taken for
      -- the first field.
      by_cases hlen : ((first :: rest).map WorkflowLint.Json.object).length
          ≤ Analysis.fieldNames.length
      · exact ofJson?_eq_none (by rw [Json.fields?, if_pos hlen]; rfl) rfl
      · rw [Analysis.ofJson?, Json.fields?, if_neg hlen]
        rfl

/-- The analyses in a report are those that it was made from. A report of one entry is read as
that entry, and any other report is read as a list, because a list is no analysis. -/
theorem analyses?_reportJson (stamp : Stamp) (analyses : List Analysis) :
    analyses? (reportJson stamp analyses) = some analyses := by
  unfold reportJson
  split
  · rw [analyses?, ofJson?_entryJson]
  · have hobjects : analyses.map (entryJson stamp)
        = (analyses.map fun a => ("metadata", metadataJson stamp a) :: a.members).map .object := by
      rw [List.map_map]
      rfl
    have hone : Analysis.ofJson? (.array (analyses.map (entryJson stamp))) = none := by
      rw [hobjects]
      exact ofJson?_array _
    rw [analyses?, hone]
    exact Json.list?_map (ofJson?_entryJson stamp) analyses

/-! ### The round trip -/

/-- Reading a report gives the analyses that it was made from, one or many, in
their order. -/
theorem read_json (stamp : Stamp) (analyses : List Analysis)
    (h : ∀ a ∈ analyses, Reportable a) : read (json stamp analyses) = .ok analyses := by
  have hreport := readable_reportJson stamp h
  rw [read, json, Json.pretty, Json.fromText_write _ Json.Layout.blank_pretty hreport,
    Json.any_ofJson hreport (by decide)]
  simp only [bind, Except.bind, analyses?_reportJson]

/-- An analysis full of characters that have to be escaped. -/
def quotedAnalysis : Analysis where
  file := "C:\\flows\\\"Main\".xaml"
  workflowName := "\x00\x1f\x7f\n\r\t\x08\x0c"
  workflowPurpose := ""
  activities := [⟨"😀", "Click", "", .ofList [("b\"", "1"), ("a\\", "\u2028")]⟩]
  declared := ["\", \""]
  issues := [⟨"ERR-001", .high, .excelOperations, "[", "]", "\x7b", "\x7d"⟩]
  recommendations := []
  dependencies := .ofList [("metadata", "\\u0041")]
  urls := .ofList ["http://é", ","]
  connections := .empty
  components := .ofList ["Click"]
  summary := ":"
  healthScore := Float.ofNat 85

/-- A list with as many analyses as an analysis has fields reads back as a list. -/
theorem read_json_fieldNames :
    (List.replicate 13 quotedAnalysis).length = Analysis.fieldNames.length ∧
      (∀ a ∈ List.replicate 13 quotedAnalysis, Reportable a) ∧
      read (json ⟨0, 0⟩ (List.replicate 13 quotedAnalysis))
        = .ok (List.replicate 13 quotedAnalysis) := by
  have h : ∀ a ∈ List.replicate 13 quotedAnalysis, Reportable a := by
    intro a ha
    rw [List.eq_of_mem_replicate ha]
    exact ⟨⟨17, by decide, rfl⟩, by decide⟩
  exact ⟨rfl, h, read_json ⟨0, 0⟩ _ h⟩

end WorkflowLint.Report
