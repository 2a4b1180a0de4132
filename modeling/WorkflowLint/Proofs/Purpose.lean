import Mathlib.Data.List.Sublists
import Mathlib.Data.Set.Defs
import WorkflowLint.Insight.Purpose
import WorkflowLint.Proofs.Kind

/-!
# `WorkflowLint.Proofs.Purpose`: purpose and summary depend on which kinds occur

The purpose and the summary of a workflow are put together from answers to questions of one
form: does an activity of such a kind occur? No question is about a kind that is not in the
table of activities, so all answers depend on the set of listed kinds that occur
(`occurs_congr`). Order, repetition, names, attributes, spellings and unknown tags change
nothing (`labels_congr`, `summary_congr`).

A purpose is a text. The labels that it shows can be read off it (`labelsIn_purpose`): it names
them in a fixed order with commas between them, and the general purpose stands for none. So
facts about labels are facts about the text: the labels of two lists of activities together
are those of the one and of the other (`labels_append`), and the summary starts with the
sentence that fits two of the labels (`firstSentence_summary`). `purpose_summary_kinds` puts
all of it together.
-/

set_option autoImplicit false

namespace WorkflowLint.Insight

/-! ### Which kinds occur -/

/-- The kinds of the table that occur among activities. -/
def recognised (activities : List Activity) : Set Kind :=
  {k | k.isListed = true ∧ k ∈ activities.map (·.kind)}

section
variable {a b : List Activity}

/-- Whether a kind occurs that passes a test, in terms of the listed kinds. The test must reject
all unlisted ones, as every question of the tool does. -/
theorem occurs_iff {p : Kind → Bool} (hp : ∀ tag, p (.other tag) = false) :
    occurs a p = true ↔ ∃ k ∈ recognised a, p k = true := by
  rw [occurs, List.any_eq_true]
  constructor
  · rintro ⟨x, hx, hkind⟩
    exact ⟨x.kind, ⟨Kind.isListed_of_passes hp hkind, List.mem_map_of_mem hx⟩, hkind⟩
  · rintro ⟨k, ⟨-, hmem⟩, hkind⟩
    obtain ⟨x, hx, rfl⟩ := List.mem_map.mp hmem
    exact ⟨x, hx, hkind⟩

/-- So the answer is the same for two lists in which the same listed kinds occur. -/
theorem occurs_congr (h : recognised a = recognised b) {p : Kind → Bool}
    (hp : ∀ tag, p (.other tag) = false) : occurs a p = occurs b p := by
  rw [Bool.eq_iff_iff, occurs_iff hp, occurs_iff hp, h]

/-- In particular a single listed kind occurs in both or in neither. -/
theorem has_congr (h : recognised a = recognised b) {k : Kind} (hk : k.isListed = true) :
    has a k = has b k := by
  -- To be of a listed kind is a test that no unlisted kind passes.
  refine occurs_congr h fun tag => ?_
  cases k with
  | other tag' => cases hk
  | _ => rfl

end

/-! ### Labels -/

/-- The label of work in a browser or on a screen. -/
def webLabel : String := "Web Automation"

/-- The label of work on spreadsheets. -/
def sheetLabel : String := "Spreadsheet Processing"

/-- The labels in their order, each with the kinds that it stands for. -/
def labelTests : List (String × (Kind → Bool)) :=
  [(webLabel, Kind.isWeb), (sheetLabel, Kind.isSpreadsheet),
   ("Bulk Processing", (· == .forEachRow))]

/-- All labels in their order. -/
def labelOrder : List String := labelTests.map (·.1)

/-- A purpose in words: its labels, or that it has none. -/
def phrase (labels : List String) : String :=
  if labels = [] then generalPurpose else ", ".intercalate labels

/-- The labels that a purpose in words shows. -/
def labelsIn (purpose : String) : List String :=
  if purpose = generalPurpose then []
  else (Text.cut ',' purpose.toList).map fun piece => String.ofList (piece.dropWhile (· = ' '))

/-- The purpose is the phrase for its labels and depends on the activities through them only. -/
theorem purpose_eq_phrase (a : List Activity) : purpose a = phrase (labels a) := by
  simp only [purpose, phrase, List.isEmpty_iff]

/-- A label is given when a kind occurs that it stands for. The labels come in the order of the
table, each at most once. -/
theorem labels_eq (a : List Activity) :
    labels a = (labelTests.filter fun t => occurs a t.2).map (·.1) := by
  simp only [labels, has, labelTests, webLabel, sheetLabel, List.filter_cons, List.filter_nil]
  -- Three answers, and a list of labels for each combination.
  by_cases hweb : occurs a Kind.isWeb = true <;>
    by_cases hsheet : occurs a Kind.isSpreadsheet = true <;>
      by_cases hbulk : occurs a (· == .forEachRow) = true <;>
        simp [hweb, hsheet, hbulk]

/-- A label stands for its own kinds only, since no two entries of the table have the same label. -/
theorem mem_labels_iff {t : String × (Kind → Bool)} (ht : t ∈ labelTests) (a : List Activity) :
    t.1 ∈ labels a ↔ occurs a t.2 = true := by
  -- The labels in the table are distinct.
  have hunique : ∀ u ∈ labelTests, ∀ v ∈ labelTests, u.1 = v.1 → u = v := by
    simp [labelTests, webLabel, sheetLabel]
  rw [labels_eq, List.mem_map]
  constructor
  · rintro ⟨u, hu, hname⟩
    obtain ⟨hmem, hoccurs⟩ := List.mem_filter.mp hu
    rwa [hunique u hmem t ht hname] at hoccurs
  · intro hoccurs
    exact ⟨t, List.mem_filter.mpr ⟨ht, hoccurs⟩, rfl⟩

/-- The labels of a workflow are some of all labels, in the fixed order. -/
theorem labels_sublist (a : List Activity) : (labels a).Sublist labelOrder := by
  rw [labels_eq, labelOrder]
  exact List.filter_sublist.map _

/-- The labels of two lists together are those of the one and of the other. -/
theorem labels_append (a b : List Activity) :
    labels (a ++ b) = labelOrder.filter fun l => l ∈ labels a ∨ l ∈ labels b := by
  rw [labels_eq, labelOrder, List.filter_map]
  -- Both sides keep an entry of the table by the same test: its kinds occur in one of the lists.
  refine congrArg (List.map _) (List.filter_congr fun t ht => ?_)
  have happend : occurs (a ++ b) t.2 = (occurs a t.2 || occurs b t.2) := List.any_append
  simp only [happend, Function.comp_apply, mem_labels_iff ht, Bool.decide_or,
    Bool.decide_eq_true]

-- Labels are a choice from a fixed order, so there are finitely many purposes to look at.
/-- Labels can be read off a purpose in words, whichever they are. -/
theorem labelsIn_phrase : ∀ l ∈ labelOrder.sublists, labelsIn (phrase l) = l := by
  decide +kernel

/-- The labels of a workflow can be read off its purpose, so nothing is lost by putting them into
words. -/
theorem labelsIn_purpose (a : List Activity) : labelsIn (purpose a) = labels a := by
  rw [purpose_eq_phrase]
  exact labelsIn_phrase _ (List.mem_sublists.mpr (labels_sublist a))

/-! ### Sentences -/

/-- What a summary says between its opening sentence and the disclaimer. -/
def details (activities : List Activity) : List String :=
  start activities ++
  (if has activities .forEachRow then
    ["It then repeats a series of actions for every row of a data table."] else []) ++
  (if (operations activities).isEmpty then [] else
    ["Key operations include " ++ ", ".intercalate (operations activities) ++ "."]) ++
  (if has activities .tryCatch then
    ["It uses Try Catch blocks to handle errors, which makes it more resilient to runtime " ++
     "failures."] else [])

/-- The sentences about a workflow with activities: an opening that depends on two answers, the
details, and the disclaimer at the end. -/
theorem sentences_eq {a : List Activity} (ha : a ≠ []) :
    sentences a = opening (occurs a Kind.isWeb) (occurs a Kind.isSpreadsheet) ::
      (details a ++ [disclaimer]) := by
  rw [sentences, if_neg (by simpa using ha)]
  rfl

/-- The first sentence of a text, up to its first full stop. -/
def firstSentence (text : String) : String :=
  String.ofList (text.toList.takeWhile (· ≠ '.') ++ ['.'])

/-- A text whose only full stop is at its end is the first sentence, whatever follows it. -/
theorem firstSentence_ofList {l : List Char} (h : l.takeWhile (· ≠ '.') ++ ['.'] = l)
    (rest : String) : firstSentence (String.ofList l ++ rest) = String.ofList l := by
  -- The full stop at the end of the sentence stops the search before what follows.
  have hbody : ∀ c ∈ l.takeWhile (· ≠ '.'), decide (c ≠ '.') = true :=
    List.all_eq_true.mp List.all_takeWhile
  have htake : (l ++ rest.toList).takeWhile (· ≠ '.') = l.takeWhile (· ≠ '.') := by
    nth_rewrite 1 [← h]
    rw [List.append_assoc, List.takeWhile_append_of_pos hbody]
    simp
  rw [firstSentence, String.toList_append, String.toList_ofList, htake, h]

/-- Each of the four openings is a single sentence, so it is found again at the start of every
summary. -/
theorem firstSentence_opening (web sheet : Bool) (rest : String) :
    firstSentence (opening web sheet ++ rest) = opening web sheet := by
  match web, sheet with
  | true, true =>
    -- The only opening sentence that is put together from two texts.
    show firstSentence (String.ofList _ ++ String.ofList _ ++ rest)
      = String.ofList _ ++ String.ofList _
    rw [← String.ofList_append]
    exact firstSentence_ofList rfl rest
  | true, false => exact firstSentence_ofList (by decide +kernel) rest
  | false, true => exact firstSentence_ofList (by decide +kernel) rest
  | false, false => exact firstSentence_ofList (by decide +kernel) rest

/-- The four openings are different, so the two answers can be read off them. -/
theorem opening_inj : ∀ web sheet web' sheet',
    opening web sheet = opening web' sheet' ↔ web = web' ∧ sheet = sheet' := by
  decide +kernel

/-- The first sentence of a summary shows whether there is work on a screen and whether there is
work on spreadsheets; so do two of the labels. -/
theorem firstSentence_summary {a : List Activity} (ha : a ≠ []) (web sheet : Bool) :
    firstSentence (summary a) = opening web sheet ↔
      (web = true ↔ webLabel ∈ labels a) ∧ (sheet = true ↔ sheetLabel ∈ labels a) := by
  -- There is always something behind the opening, so a blank follows it.
  have hfirst : firstSentence (summary a)
      = opening (occurs a Kind.isWeb) (occurs a Kind.isSpreadsheet) := by
    rw [summary, sentences_eq ha, String.intercalate_cons_of_ne_nil (by simp),
      String.append_assoc]
    exact firstSentence_opening _ _ _
  have hweb : webLabel ∈ labels a ↔ occurs a Kind.isWeb = true :=
    mem_labels_iff (t := (webLabel, Kind.isWeb)) (by simp [labelTests]) a
  have hsheet : sheetLabel ∈ labels a ↔ occurs a Kind.isSpreadsheet = true :=
    mem_labels_iff (t := (sheetLabel, Kind.isSpreadsheet)) (by simp [labelTests]) a
  rw [hfirst, opening_inj, hweb, hsheet, ← Bool.eq_iff_iff, ← Bool.eq_iff_iff, eq_comm,
    eq_comm (a := sheet)]

/-- Every summary ends with the disclaimer, that of an empty workflow too. -/
theorem disclaimer_suffix_summary (a : List Activity) :
    disclaimer.toList <:+ (summary a).toList := by
  have hlast : ∃ front ≠ [], sentences a = front ++ [disclaimer] := by
    by_cases ha : a = []
    · subst ha
      exact ⟨[_], by simp, rfl⟩
    · exact ⟨_ :: details a, by simp, sentences_eq ha⟩
  obtain ⟨front, hfront, hsentences⟩ := hlast
  rw [summary, hsentences, String.intercalate_append_of_ne_nil hfront (by simp),
    String.intercalate_singleton, String.toList_append]
  exact List.suffix_append _ _

/-! ### What the texts depend on -/

section
variable {a b : List Activity} (h : recognised a = recognised b)
include h

/-- Labels depend on the listed kinds that occur, and not on how often or in which order they do. -/
theorem labels_congr : labels a = labels b := by
  rw [labels, labels, occurs_congr h fun _ => rfl, occurs_congr h fun _ => rfl, has_congr h rfl]

/-- So does the sentence on how a workflow starts, which asks for one kind after the other. -/
theorem start_congr : start a = start b := by
  rw [start, start, has_congr h (k := .openBrowser) rfl,
    has_congr h (k := .useApplicationBrowser) rfl, occurs_congr h fun _ => rfl,
    has_congr h (k := .useExcelFile) rfl]

/-- So does the list of key operations. Each of them stands for a kind or for a group of kinds. -/
theorem operations_congr : operations a = operations b := by
  simp only [operations, occurs_congr h (p := Kind.isClick) fun _ => rfl,
    has_congr h (k := .typeInto) rfl, has_congr h (k := .modernTypeInto) rfl,
    has_congr h (k := .getText) rfl, has_congr h (k := .modernGetText) rfl,
    has_congr h (k := .readRange) rfl, has_congr h (k := .writeCell) rfl]

/-- So do all details, which are put together from the answers above. -/
theorem details_congr : details a = details b := by
  rw [details, details, start_congr h, operations_congr h, has_congr h (k := .forEachRow) rfl,
    has_congr h (k := .tryCatch) rfl]

/-- So does the summary, if there are activities at all. An empty workflow has a text of its own,
although no listed kind occurs in a workflow of unknown activities either. -/
theorem summary_congr (ha : a ≠ []) (hb : b ≠ []) : summary a = summary b := by
  rw [summary, summary, sentences_eq ha, sentences_eq hb, details_congr h,
    occurs_congr h (p := Kind.isWeb) fun _ => rfl,
    occurs_congr h (p := Kind.isSpreadsheet) fun _ => rfl]

end

/-- Purpose and summary depend on which kinds occur. Two lists of activities in which the same
kinds of the table occur have the same purpose and the same summary, if none of them is
empty. A purpose shows its labels in a fixed order, and the labels of two lists together are
those that the one or the other shows. The summary of activities starts with the sentence
that fits the labels, and every summary ends with the disclaimer. -/
theorem purpose_summary_kinds :
    (∀ a b : List Activity, a ≠ [] → b ≠ [] → recognised a = recognised b →
      purpose a = purpose b ∧ summary a = summary b) ∧
    (∀ a b : List Activity, labelsIn (purpose (a ++ b))
      = labelOrder.filter fun l => l ∈ labelsIn (purpose a) ∨ l ∈ labelsIn (purpose b)) ∧
    (∀ a : List Activity, purpose a = phrase (labelsIn (purpose a))) ∧
    (∀ a : List Activity, a ≠ [] → ∀ web sheet, firstSentence (summary a) = opening web sheet ↔
      (web = true ↔ webLabel ∈ labelsIn (purpose a)) ∧
      (sheet = true ↔ sheetLabel ∈ labelsIn (purpose a))) ∧
    ∀ a : List Activity, disclaimer.toList <:+ (summary a).toList := by
  refine ⟨fun a b ha hb h => ⟨?_, summary_congr h ha hb⟩, fun a b => ?_, fun a => ?_,
    fun a ha web sheet => ?_, disclaimer_suffix_summary⟩
  · rw [purpose_eq_phrase, purpose_eq_phrase, labels_congr h]
  · simp only [labelsIn_purpose]
    exact labels_append a b
  · rw [labelsIn_purpose]
    exact purpose_eq_phrase a
  · rw [labelsIn_purpose]
    exact firstSentence_summary ha web sheet

/-- An activity with a tag and nothing else. -/
def tagged (tag : String) : Activity := ⟨"", tag, "", .empty⟩

/-- Clicking and reading a range, in two orders and spellings, once with an unknown activity
between them. Together with a loop over rows the workflow gets all three labels. -/
theorem purpose_summary_kinds_clickAndRead :
    recognised [tagged "Click", tagged "ReadRange"]
      = recognised [tagged "ReadRangeX", tagged "Retry", tagged "Click", tagged "Click"] ∧
    purpose [tagged "Click", tagged "ReadRange"]
      = purpose [tagged "ReadRangeX", tagged "Retry", tagged "Click", tagged "Click"] ∧
    summary [tagged "Click", tagged "ReadRange"]
      = summary [tagged "ReadRangeX", tagged "Retry", tagged "Click", tagged "Click"] ∧
    labelsIn (purpose ([tagged "Click", tagged "ReadRange"] ++ [tagged "ForEachRow"]))
      = labelOrder ∧
    firstSentence (summary [tagged "Click", tagged "ReadRange"]) = opening true true := by
  obtain ⟨hsame, hunion, -, hfirst, -⟩ := purpose_summary_kinds
  have hkinds : recognised [tagged "Click", tagged "ReadRange"]
      = recognised [tagged "ReadRangeX", tagged "Retry", tagged "Click", tagged "Click"] := by
    -- The unknown activity adds no listed kind, and repetition adds nothing.
    ext k
    show k.isListed = true ∧ k ∈ [Kind.click, .readRange] ↔
      k.isListed = true ∧ k ∈ [Kind.readRange, .other "Retry", .click, .click]
    simp only [List.mem_cons, List.not_mem_nil, or_false]
    constructor
    · rintro ⟨hk, rfl | rfl⟩ <;> simp [hk]
    · rintro ⟨hk, rfl | rfl | rfl | rfl⟩
      · exact ⟨hk, .inr rfl⟩
      · cases hk
      · exact ⟨hk, .inl rfl⟩
      · exact ⟨hk, .inl rfl⟩
  have hequal := hsame _ _ (by simp) (by simp) hkinds
  refine ⟨hkinds, hequal.1, hequal.2, (hunion _ _).trans (by decide +kernel),
    (hfirst _ (by simp) true true).mpr (by decide +kernel)⟩

end WorkflowLint.Insight
