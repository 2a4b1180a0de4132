import Mathlib.Data.List.SplitBy
import WorkflowLint.Proofs.Report.Entries

/-!
# `WorkflowLint.Proofs.Report.Issues`: all reports show the same issues

The four formats arrange the issues of a workflow in different ways. A page sorts them by
severity. Reports for terminals and in Markdown go through the severities, the worst
first, and show the issues of each one under a heading, unless there are none. Reports
for programs have them in the order of the rules and count them. `showIssuesAlike` says that
the arrangements agree, and that they are what the whole reports show.

* Sorting is the same as going through the severities (`sortedIssues_eq`). It neither
  loses nor repeats an issue, and it keeps the order within a severity
  (`filter_sortedIssues`). The headings of the other two formats stand where the severity
  changes in the sorted list: their groups are its runs (`runs_sortedIssues`).
* The part of a report that is about one workflow is what is in front of the issues, the
  issues, and what is behind them. `render_analysisSpans`, `analysisText_eq` and
  `exists_render_workflowPieces_eq` say so for three formats, with the entry of each issue
  spelled out (`WorkflowLint.Proofs.Report.Entries`). What a page shows besides is read off
  its pieces (`texts_workflowPieces`, `words_workflowPieces`), and so the table is the only
  place on a page where issues are shown. A report is such parts with a frame around them.
* The number of issues of a severity is the same wherever it is shown, and the numbers add
  up to the number of all issues (`sum_count`).
* The line on all workflows adds up one list of numbers workflow by workflow. It ends with
  the sums for each severity (`totals_eq`).
-/

set_option autoImplicit false

namespace WorkflowLint.Report

/-! ### The order of a page -/

/-- Whether an issue is at least as bad as another. -/
def isAsBad (i j : Issue) : Bool := j.severity.rank ≤ i.severity.rank

/-- Being at least as bad is a matter of ranks, so it is handed on. Sorting asks for this. -/
theorem isAsBad_trans (i j k : Issue) (hij : isAsBad i j = true) (hjk : isAsBad j k = true) :
    isAsBad i k = true := by
  simp only [isAsBad, decide_eq_true_eq] at hij hjk ⊢
  omega

/-- Of two issues one is at least as bad as the other. Sorting asks for this, too. -/
theorem isAsBad_total (i j : Issue) : (isAsBad i j || isAsBad j i) = true := by
  simp only [isAsBad, Bool.or_eq_true, decide_eq_true_eq]
  omega

/-- Issues of one severity are as bad as each other. -/
theorem isAsBad_of_eq {i j : Issue} (h : i.severity = j.severity) : isAsBad i j = true := by
  rw [isAsBad, h, decide_eq_true_eq]

/-- Every severity has its place among the severities: behind the worse ones and in front
of the milder ones. -/
theorem exists_descending_eq (s : Severity) :
    ∃ worse milder, Severity.descending = worse ++ s :: milder ∧
      (∀ t ∈ worse, s.rank < t.rank) ∧ ∀ t ∈ milder, t.rank < s.rank := by
  cases s with
  | critical => exact ⟨[], [.high, .medium, .low], rfl, by decide, by decide⟩
  | high => exact ⟨[.critical], [.medium, .low], rfl, by decide, by decide⟩
  | medium => exact ⟨[.critical, .high], [.low], rfl, by decide, by decide⟩
  | low => exact ⟨[.critical, .high, .medium], [], rfl, by decide, by decide⟩

/-- Where no issue stands behind a milder one, going through the severities gives the list
back. -/
theorem flatMap_filter_of_pairwise {l : List Issue}
    (h : l.Pairwise fun i j => isAsBad i j = true) :
    (Severity.descending.flatMap fun s => l.filter fun i => i.severity == s) = l := by
  induction l with
  | nil => rfl
  | cons i rest ih =>
      obtain ⟨hi, hrest⟩ := List.pairwise_cons.mp h
      obtain ⟨worse, milder, hsplit, hworse, hmilder⟩ := exists_descending_eq i.severity
      -- Nothing worse than the first issue follows, so the first issue is shown first.
      have hnone : ∀ t ∈ worse, rest.filter (fun j => j.severity == t) = [] := by
        intro t ht
        refine List.filter_eq_nil_iff.mpr fun j hj heq => ?_
        have hle : j.severity.rank ≤ i.severity.rank := of_decide_eq_true (hi j hj)
        have hlt := hworse t ht
        rw [← eq_of_beq heq] at hlt
        omega
      have hother : ∀ t : Severity, i.severity.rank ≠ t.rank →
          (i :: rest).filter (fun j => j.severity == t) = rest.filter fun j => j.severity == t := by
        intro t ht
        refine List.filter_cons_of_neg fun heq => ht ?_
        rw [eq_of_beq heq]
      have hfront : (worse.flatMap fun t => (i :: rest).filter fun j => j.severity == t) = [] := by
        refine List.flatMap_eq_nil_iff.mpr fun t ht => ?_
        rw [hother t (Nat.ne_of_lt (hworse t ht)), hnone t ht]
      have hback : (milder.flatMap fun t => (i :: rest).filter fun j => j.severity == t)
          = milder.flatMap fun t => rest.filter fun j => j.severity == t :=
        List.flatMap_congr fun t ht => hother t (Nat.ne_of_gt (hmilder t ht))
      have ih := ih hrest
      rw [hsplit, List.flatMap_append, List.flatMap_cons, List.flatMap_eq_nil_iff.mpr hnone,
        List.nil_append] at ih
      rw [hsplit, List.flatMap_append, List.flatMap_cons, hfront, hback, List.nil_append,
        List.filter_cons_of_pos (by simp), List.cons_append, ih]

/-- The issues of a severity have it, as they were chosen by it. -/
theorem severity_of_mem_issuesOf {a : Analysis} {s : Severity} {i : Issue}
    (h : i ∈ a.issuesOf s) : i.severity = s :=
  eq_of_beq (List.mem_filter.mp h).2

section
variable (a : Analysis)

/-- Sorting neither loses nor repeats an issue: each is in the sorted list as often as in the
analysis. -/
theorem perm_sortedIssues : (sortedIssues a).Perm a.issues := List.mergeSort_perm _ _

/-- Sorting keeps the order within a severity, because it is stable. -/
theorem filter_sortedIssues (s : Severity) :
    (sortedIssues a).filter (fun i => i.severity == s) = a.issuesOf s := by
  -- The issues of one severity are in order already, so the sorted list has them in order.
  have hinorder : (a.issuesOf s).Pairwise fun i j => isAsBad i j = true := by
    refine List.pairwise_of_forall_mem_list fun i hi j hj => isAsBad_of_eq ?_
    rw [severity_of_mem_issuesOf hi, severity_of_mem_issuesOf hj]
  have hsublist : (a.issuesOf s).Sublist (sortedIssues a) :=
    List.sublist_mergeSort isAsBad_trans isAsBad_total hinorder List.filter_sublist
  have hfiltered : (a.issuesOf s).Sublist ((sortedIssues a).filter fun i => i.severity == s) := by
    have hown := hsublist.filter fun i => i.severity == s
    simpa only [Analysis.issuesOf, List.filter_filter, Bool.and_self] using hown
  exact (hfiltered.eq_of_length ((perm_sortedIssues a).filter _).length_eq.symm).symm

/-- Sorting by severity is going through the severities, from the worst to the mildest, and
listing the issues of each. -/
theorem sortedIssues_eq : sortedIssues a = Severity.descending.flatMap a.issuesOf := by
  have hsorted : (sortedIssues a).Pairwise fun i j => isAsBad i j = true :=
    List.pairwise_mergeSort isAsBad_trans isAsBad_total a.issues
  rw [← flatMap_filter_of_pairwise hsorted]
  simp only [filter_sortedIssues]

/-! ### Groups under headings -/

/-- The runs of issues with the same severity. -/
def runs (issues : List Issue) : List (List Issue) :=
  issues.splitBy fun i j => i.severity == j.severity

/-- The runs of the sorted issues are the severities that there are issues of. -/
theorem runs_sortedIssues :
    runs (sortedIssues a)
      = (Severity.descending.map a.issuesOf).filter fun issues => !issues.isEmpty := by
  -- The sorted issues are the groups behind each other, so splitting them gives the groups back.
  have hflatten : ((Severity.descending.map a.issuesOf).filter fun l => !l.isEmpty).flatten
      = sortedIssues a := by
    rw [List.flatten_filter_not_isEmpty, sortedIssues_eq, List.flatMap_def]
  rw [runs, ← hflatten]
  refine List.splitBy_flatten (by simp) ?_ ?_
  · intro group hgroup
    obtain ⟨s, -, rfl⟩ := List.mem_map.mp (List.mem_filter.mp hgroup).1
    refine (List.pairwise_of_forall_mem_list fun i hi j hj => ?_).isChain
    rw [severity_of_mem_issuesOf hi, severity_of_mem_issuesOf hj, beq_self_eq_true]
  · -- Different groups have different severities, neighbours in particular.
    have hdistinct : Severity.descending.Pairwise (· ≠ ·) := by decide
    refine (List.pairwise_filter.mpr (List.pairwise_map.mpr (hdistinct.imp ?_))).isChain
    intro s t hst hs ht
    have hs : a.issuesOf s ≠ [] := by simpa using hs
    have ht : a.issuesOf t ≠ [] := by simpa using ht
    refine ⟨hs, ht, ?_⟩
    rw [severity_of_mem_issuesOf (List.getLast_mem hs), severity_of_mem_issuesOf (List.head_mem ht),
      beq_eq_false_iff_ne]
    exact hst

/-- A run of issues in a report for terminals: the severity, how many issues there are, and
the issues. -/
def runSpans : List Issue → List Span
  | [] => []
  | i :: rest =>
    [.plain "\n  ",
     .styled (severityStyle i.severity)
       (i.severity.label ++ " (" ++ toString (i :: rest).length ++ ")"),
     .plain "\n"] ++ (i :: rest).flatMap issueSpans

/-- A run of issues in a report for terminals without colours: a heading with the severity and
the number of issues, and an entry for each issue. -/
def terminalRun : List Issue → String
  | [] => ""
  | i :: rest =>
    "\n  " ++ i.severity.label ++ " (" ++ toString (i :: rest).length ++ ")" ++ "\n" ++
    String.join ((i :: rest).map terminalEntry)

/-- A run of issues in Markdown: a heading with the severity and the number of issues, the lines
of each issue, and an empty line. -/
def markdownRun : List Issue → String
  | [] => ""
  | i :: rest =>
    "#### " ++ i.severity.label ++ " (" ++ toString (i :: rest).length ++ ")\n\n" ++
    String.join ((i :: rest).flatMap markdownEntry) ++ "\n"

/-- The spans of a run show its heading and its entries. -/
theorem render_runSpans (issues : List Issue) :
    Span.render false (runSpans issues) = terminalRun issues := by
  cases issues with
  | nil => rfl
  | cons i rest =>
      rw [runSpans, terminalRun, render_append, render_flatMap]
      simp only [render_issueSpans, render_plain_cons, render_styled_cons, render_nil,
        String.append_empty, ← String.append_assoc]

/-- The issues of a severity are shown as a run. Without issues there is no heading either, and
otherwise the heading names the severity of the first issue, which is that of all. -/
theorem groupSpans_eq (s : Severity) : groupSpans a s = runSpans (a.issuesOf s) := by
  rw [groupSpans]
  cases hissues : a.issuesOf s with
  | nil => rfl
  | cons i rest =>
      -- The heading takes the severity of the first issue, which is that of the group.
      have hi : i.severity = s := severity_of_mem_issuesOf (hissues ▸ List.mem_cons_self)
      rw [runSpans, hi]
      rfl

/-- The same in Markdown, with lines instead of spans: a heading and the lines of each issue. -/
theorem groupText_eq (s : Severity) : groupText a s = markdownRun (a.issuesOf s) := by
  rw [groupText]
  cases hissues : a.issuesOf s with
  | nil => rfl
  | cons i rest =>
      have hi : i.severity = s := severity_of_mem_issuesOf (hissues ▸ List.mem_cons_self)
      have hentries : String.join ((i :: rest).map issueText)
          = String.join ((i :: rest).flatMap markdownEntry) := by
        rw [join_flatMap]
        exact congrArg String.join (List.map_congr_left fun j _ => issueText_eq j)
      rw [markdownRun, hi, ← hentries]
      rfl

/-- Whatever is made of the issues of each severity, if nothing is made of none, is made of
the runs. -/
theorem flatMap_runs {β : Type} {f : List Issue → List β} (hf : f [] = []) :
    (runs (sortedIssues a)).flatMap f = Severity.descending.flatMap fun s => f (a.issuesOf s) := by
  -- Groups without issues contribute nothing, so it does not matter that the runs lack them.
  have hskip : ∀ groups : List (List Issue),
      (groups.filter fun issues => !issues.isEmpty).flatMap f = groups.flatMap f := by
    intro groups
    induction groups with
    | nil => rfl
    | cons issues groups ih =>
        cases issues with
        | nil => simpa [hf] using ih
        | cons i rest => simpa using ih
  rw [runs_sortedIssues, hskip, List.flatMap_map]

/-- The issues in a report for terminals are the runs of the order of a page. -/
theorem flatMap_groupSpans :
    Severity.descending.flatMap (groupSpans a) = (runs (sortedIssues a)).flatMap runSpans := by
  have hgroups : groupSpans a = fun s => runSpans (a.issuesOf s) := funext (groupSpans_eq a)
  rw [flatMap_runs a rfl, hgroups]

/-- So are the issues in Markdown: going through the severities shows the runs of the sorted
issues. -/
theorem join_groupText :
    String.join (Severity.descending.map (groupText a))
      = String.join ((runs (sortedIssues a)).map markdownRun) := by
  refine String.toList_inj.mp ?_
  rw [String.toList_join, String.toList_join, List.flatMap_map, List.flatMap_map,
    flatMap_runs a rfl]
  simp only [groupText_eq]

/-! ### Numbers of issues -/

/-- The sizes of the runs are the numbers of issues of the severities that there are issues
of. -/
theorem length_runs :
    (runs (sortedIssues a)).map List.length
      = (Severity.descending.map a.count).filter (· ≠ 0) := by
  rw [runs_sortedIssues, List.filter_map, List.filter_map, List.map_map]
  refine congrArg (List.map _) (List.filter_congr fun s _ => ?_)
  have hsize : (a.issuesOf s).isEmpty = decide (a.count s = 0) := by
    rw [Bool.eq_iff_iff, List.isEmpty_iff_length_eq_zero, decide_eq_true_eq, Analysis.count]
  simp [hsize]

/-- The numbers of issues add up to the number of all issues. -/
theorem sum_count : sumOf a.count Severity.descending = a.issues.length := by
  have hlength : (sortedIssues a).length = sumOf a.count Severity.descending := by
    rw [sortedIssues_eq, length_flatMap_eq]
    rfl
  rw [← hlength, (perm_sortedIssues a).length_eq]

end

/-! ### Reports for terminals -/

/-- What stands in front of the issues of a workflow in a report for terminals. -/
def terminalFront (a : Analysis) : String :=
  a.file ++ "\n  Workflow: " ++ a.workflowName ++ "\n  Purpose: " ++ a.workflowPurpose ++
  "\n  Health score: " ++ Decimal.onePlace a.healthScore ++ "/100 (" ++ a.rating.label ++ ")" ++
  "\n  Activities: " ++ toString a.activities.length ++ ", variables: " ++
  toString a.declared.length ++ "\n"

/-- What stands behind the issues of a workflow in a report for terminals. -/
def terminalBack (a : Analysis) : String :=
  if a.recommendations.isEmpty then ""
  else
    "\n  Recommendations\n" ++
      String.join (a.recommendations.map fun r => "    - " ++ r ++ "\n")

/-- The recommendations are what stands behind the issues, and without any nothing stands there. -/
theorem render_recommendationSpans (a : Analysis) :
    Span.render false (recommendationSpans a.recommendations) = terminalBack a := by
  rw [recommendationSpans, terminalBack]
  split
  · rfl
  · rw [render_append, List.map_eq_flatMap, render_flatMap]
    simp only [render_plain_cons, render_styled_cons, render_nil, String.append_empty,
      String.reduceAppend]

/-- The part of a report for terminals that is about one workflow: the issues stand in the
middle, run by run. -/
theorem render_analysisSpans (a : Analysis) :
    Span.render false (analysisSpans a)
      = terminalFront a ++ String.join ((runs (sortedIssues a)).map terminalRun) ++
        terminalBack a := by
  -- Only the middle depends on the issues, and there it is made of runs.
  have hruns : Span.render false (Severity.descending.flatMap (groupSpans a))
      = String.join ((runs (sortedIssues a)).map terminalRun) := by
    rw [flatMap_groupSpans, render_flatMap]
    simp only [render_runSpans]
  unfold analysisSpans terminalFront
  rw [render_append, render_append, hruns, render_recommendationSpans]
  simp only [render_plain_cons, render_styled_cons, render_nil, String.append_empty,
    ← String.append_assoc]

/-! ### Markdown -/

/-- What stands in front of the issues of a workflow in Markdown. -/
def markdownFront (a : Analysis) : String :=
  "## " ++ a.file ++ "\n\n" ++ figures a ++
  "### Purpose\n\n**" ++ a.workflowPurpose ++ "**\n\n" ++ a.summary ++ "\n\n" ++
  subsection "Activities" ((byType a.activities).entries.flatMap fun e => typeLines e.1 e.2) ++
  subsection "Variables" (a.declared.map fun v => "- `" ++ v ++ "`\n")

/-- What stands behind the issues of a workflow in Markdown. -/
def markdownBack (a : Analysis) : String :=
  subsection "Recommendations"
    (a.recommendations.zipIdx.map fun (r, i) => toString (i + 1) ++ ". " ++ r ++ "\n") ++
  dependenciesText a.dependencies ++
  subsection "External Resources"
    (a.urls.toList.map (fun u => "- <" ++ u ++ ">\n") ++
      a.connections.toList.map fun c => "- Database: `" ++ c ++ "`\n")

/-- The section of a report in Markdown that is about one workflow: the issues stand in the
middle, run by run, under a heading of their own if there are any. -/
theorem analysisText_eq (a : Analysis) :
    analysisText a = markdownFront a ++
      (if a.issues.isEmpty then "" else
        "### Issues\n\n" ++ String.join ((runs (sortedIssues a)).map markdownRun)) ++
      markdownBack a := by
  have hissues : issuesText a = if a.issues.isEmpty then "" else
      "### Issues\n\n" ++ String.join ((runs (sortedIssues a)).map markdownRun) := by
    rw [issuesText, join_groupText]
  rw [← hissues]
  unfold analysisText markdownFront markdownBack
  simp only [← String.append_assoc, -String.reduceAppend]

/-! ### Pages -/

/-- The table of issues is one stretch of the pieces of a workflow. -/
theorem issueRows_infix_workflowPieces (a : Analysis) :
    separated "\n" ((sortedIssues a).map issueRow) <:+: workflowPieces a := by
  unfold workflowPieces
  -- Behind the table there are nine more parts, which are taken off one after the other.
  iterate 9 refine List.IsInfix.trans ?_ (List.prefix_append _ _).isInfix
  exact (List.suffix_append _ _).isInfix

/-- The section of a page that is about one workflow has a row for each issue, one below the
other. -/
theorem exists_render_workflowPieces_eq (a : Analysis) :
    ∃ front back, Piece.render (workflowPieces a)
      = front ++ "\n".intercalate ((sortedIssues a).map pageRow) ++ back := by
  obtain ⟨front, back, hpieces⟩ := issueRows_infix_workflowPieces a
  refine ⟨Piece.render front, Piece.render back, ?_⟩
  rw [← hpieces, Piece.render_append, Piece.render_append, render_separated, List.map_map]
  simp only [Function.comp_def, render_issueRow]

/-- The word of the tool's own that a piece of a page is. -/
def Piece.plain? : Piece → Option String
  | .markup _ => none
  | .plain s => some s
  | .text _ => none

/-- The text that a piece of a page is. -/
def Piece.text? : Piece → Option String
  | .markup _ => none
  | .plain _ => none
  | .text s => some s

/-- Markup between parts is passed over by whatever looks for something else. -/
theorem filterMap_separated {α β : Type} {pick : Piece → Option β} {separator : String}
    (hpick : pick (.markup separator) = none) (f : α → List Piece) (l : List α) :
    (separated separator (l.map f)).filterMap pick = l.flatMap fun x => (f x).filterMap pick := by
  induction l with
  | nil => rfl
  | cons x rest ih =>
      cases rest with
      | nil => simp [separated]
      | cons y others =>
          have hsplit : separated separator ((x :: y :: others).map f)
              = f x ++ .markup separator :: separated separator ((y :: others).map f) := by
            simp [separated]
          rw [hsplit, List.filterMap_append, List.filterMap_cons_none hpick, ih]
          rfl

/-- The texts of a page: those of the issues stand in the order of the page. -/
theorem texts_workflowPieces (a : Analysis) :
    (workflowPieces a).filterMap Piece.text?
      = [a.file, a.workflowName, a.workflowPurpose, a.summary] ++
        (sortedIssues a).flatMap
          (fun i => [i.rule, i.location, i.title, i.description, i.solution]) ++
        a.recommendations ++ a.declared ++
        a.dependencies.entries.flatMap (fun e => [e.1, e.2]) ++ a.urls.toList := by
  have hmarkup (s : String) : Piece.text? (.markup s) = none := rfl
  have hitems (l : List String) : (l.flatMap listItem).filterMap Piece.text? = l := by
    rw [List.filterMap_flatMap]
    exact List.flatMap_singleton' l
  have hlegend : Severity.descending.flatMap (fun s => (legendItem a s).filterMap Piece.text?)
      = [] := rfl
  simp only [workflowPieces, List.filterMap_append, filterMap_separated (hmarkup _), hitems,
    hlegend]
  simp [List.filterMap_cons, Piece.text?, issueRow, packageRow]

/-- The words of a page: those of the legend are the numbers of issues. -/
theorem words_workflowPieces (a : Analysis) :
    (workflowPieces a).filterMap Piece.plain?
      = [Decimal.onePlace a.healthScore, "Health Score (" ++ a.rating.label ++ ")",
          toString a.activities.length, toString a.issues.length] ++
        Severity.descending.map (fun s => s.label ++ ": " ++ toString (a.count s)) ++
        (sortedIssues a).flatMap (fun i => [i.severity.label, i.category.label]) := by
  have hmarkup (s : String) : Piece.plain? (.markup s) = none := rfl
  have hitems (l : List String) : (l.flatMap listItem).filterMap Piece.plain? = [] := by
    rw [List.filterMap_flatMap]
    exact List.flatMap_eq_nil_iff.mpr fun _ _ => rfl
  have hpackages (l : List (String × String)) :
      (l.flatMap fun e => (packageRow e).filterMap Piece.plain?) = [] :=
    List.flatMap_eq_nil_iff.mpr fun _ _ => rfl
  simp only [workflowPieces, List.filterMap_append, filterMap_separated (hmarkup _), hitems,
    hpackages]
  simp [List.filterMap_cons, Piece.plain?, issueRow, legendItem, Severity.descending]

/-! ### All workflows -/

/-- One more workflow adds its numbers, severity by severity. -/
theorem addCounts_map (counts : Severity → Nat) (a : Analysis) :
    addCounts (Severity.descending.map counts) a
      = Severity.descending.map fun s => counts s + a.count s := by
  rw [addCounts, List.zipWith_map_left, List.zipWith_self]

/-- After some workflows the numbers are the sums over the workflows, severity by severity. -/
theorem totals_eq (analyses : List Analysis) :
    totals analyses = Severity.descending.map fun s => sumOf (·.count s) analyses := by
  -- The induction starts from any numbers; in the end they are zero.
  have hfold : ∀ counts : Severity → Nat,
      analyses.foldl addCounts (Severity.descending.map counts)
        = Severity.descending.map fun s => counts s + sumOf (·.count s) analyses := by
    induction analyses with
    | nil => intro counts; rfl
    | cons a rest ih =>
        intro counts
        rw [List.foldl_cons, addCounts_map, ih]
        simp only [sumOf, Nat.add_assoc]
  rw [totals, hfold]
  simp only [Nat.zero_add]

/-- The line on all workflows. -/
def foundLine (counts : Severity → Nat) (workflows : Nat) : String :=
  "Found " ++
  ", ".intercalate (Severity.descending.map fun s => toString (counts s) ++ " " ++ s.smallLabel) ++
  " in " ++ toString workflows ++ " workflow" ++ (if workflows = 1 then "" else "s") ++ "\n"

/-- The line on all workflows shows the sums of the four severities and the number of workflows. -/
theorem render_totalSpans (analyses : List Analysis) :
    Span.render false (totalSpans analyses)
      = foundLine (fun s => sumOf (·.count s) analyses) analyses.length := by
  refine String.toList_inj.mp ?_
  simp [Span.render, Span.shown, Span.plain, Span.styled, totalSpans, totals_eq, foundLine,
    Severity.descending]

/-- A report for terminals is the parts on its workflows, the line on all of them, and the
verdict. -/
theorem text_eq (analyses : List Analysis) :
    text false analyses
      = String.join (analyses.map fun a => Span.render false (analysisSpans a) ++ "\n") ++
        foundLine (fun s => sumOf (·.count s) analyses) analyses.length ++
        Span.render false (verdictSpans analyses) := by
  have hpart (a : Analysis) : Span.render false (analysisSpans a ++ [.plain "\n"])
      = Span.render false (analysisSpans a) ++ "\n" := by
    rw [render_append, render_plain_cons, render_nil, String.append_empty]
  rw [text, textSpans, render_append, render_append, render_flatMap, render_totalSpans]
  simp only [hpart]

/-- The text of a page is the sections on its workflows between a head and a foot. -/
theorem exists_html_eq (stamp : Stamp) (analyses : List Analysis) :
    ∃ front back, html stamp analyses
      = front ++ "\n    ".intercalate (analyses.map fun a => Piece.render (workflowPieces a)) ++
        back := by
  have hsections : ∃ front back,
      pagePieces stamp analyses
        = front ++ separated "\n    " (analyses.map workflowPieces) ++ back := ⟨_, _, rfl⟩
  obtain ⟨front, back, hpieces⟩ := hsections
  refine ⟨Piece.render front, Piece.render back, ?_⟩
  rw [html, hpieces, Piece.render_append, Piece.render_append, render_separated, List.map_map,
    Function.comp_def]

/-- The head and the foot of a page have no texts, so all texts are in the sections. -/
theorem texts_pagePieces (stamp : Stamp) (analyses : List Analysis) :
    (pagePieces stamp analyses).filterMap Piece.text?
      = analyses.flatMap fun a => (workflowPieces a).filterMap Piece.text? := by
  have hmarkup (s : String) : Piece.text? (.markup s) = none := rfl
  simp only [pagePieces, List.filterMap_append, filterMap_separated (hmarkup _)]
  simp [List.filterMap_cons, Piece.text?]

/-- The head and the foot have words of the tool's own, none of which is about an issue. -/
theorem words_pagePieces (stamp : Stamp) (analyses : List Analysis) :
    (pagePieces stamp analyses).filterMap Piece.plain?
      = [title, styleSheet, title, stamp.date] ++
        (analyses.flatMap fun a => (workflowPieces a).filterMap Piece.plain?) ++
        [toolName ++ " v" ++ toolVersion] := by
  have hmarkup (s : String) : Piece.plain? (.markup s) = none := rfl
  simp only [pagePieces, List.filterMap_append, filterMap_separated (hmarkup _)]
  simp [List.filterMap_cons, Piece.plain?]

/-! ### The reports together -/

/-- What the parts of the reports that are about one workflow show of its issues. -/
structure ShowAlike (a : Analysis) : Prop where
  /-- The order of a page is that of the severities one after the other. -/
  order : sortedIssues a = Severity.descending.flatMap a.issuesOf
  /-- Every issue is shown, and no issue more often than it was found. -/
  once : (sortedIssues a).Perm a.issues
  /-- Within a severity the order is that of the rules. -/
  stable : ∀ s, (sortedIssues a).filter (fun i => i.severity == s)
    = a.issues.filter fun i => i.severity == s
  /-- A page has a table with a row for each issue in this order. -/
  table : ∃ front back, Piece.render (workflowPieces a)
    = front ++ "\n".intercalate ((sortedIssues a).map pageRow) ++ back
  /-- The texts of a page, in which the issues are found in the table only. -/
  page : (workflowPieces a).filterMap Piece.text?
    = [a.file, a.workflowName, a.workflowPurpose, a.summary] ++
      (sortedIssues a).flatMap
        (fun i => [i.rule, i.location, i.title, i.description, i.solution]) ++
      a.recommendations ++ a.declared ++
      a.dependencies.entries.flatMap (fun e => [e.1, e.2]) ++ a.urls.toList
  /-- A report for terminals shows the runs of this order. -/
  terminal : Span.render false (analysisSpans a)
    = terminalFront a ++ String.join ((runs (sortedIssues a)).map terminalRun) ++ terminalBack a
  /-- It does so whatever the styles are. -/
  styled : Severity.descending.flatMap (groupSpans a)
    = (runs (sortedIssues a)).flatMap runSpans
  /-- So does a report in Markdown. -/
  markdown : analysisText a = markdownFront a ++
    (if a.issues.isEmpty then "" else
      "### Issues\n\n" ++ String.join ((runs (sortedIssues a)).map markdownRun)) ++
    markdownBack a
  /-- A report for programs has the issues in the order of the rules. -/
  listed : ∀ stamp, (entryJson stamp a).member? "issues"
    = some (.array (a.issues.map Issue.toJson))
  /-- The runs have the numbers of issues by severity as their sizes; none is empty. -/
  sizes : (runs (sortedIssues a)).map List.length
    = (Severity.descending.map a.count).filter (· ≠ 0)
  /-- The legend of a page shows the numbers of issues by severity. -/
  legend : (workflowPieces a).filterMap Piece.plain?
    = [Decimal.onePlace a.healthScore, "Health Score (" ++ a.rating.label ++ ")",
        toString a.activities.length, toString a.issues.length] ++
      Severity.descending.map (fun s => s.label ++ ": " ++ toString (a.count s)) ++
      (sortedIssues a).flatMap (fun i => [i.severity.label, i.category.label])
  /-- So does the summary in a report for programs. -/
  summary : ∀ stamp,
    (((entryJson stamp a).member? "metadata").bind (·.member? "summary")).bind
        (·.fields? ("total" :: Severity.descending.map Severity.smallLabel))
      = some ((a.issues.length :: Severity.descending.map a.count).map fun n => some (.ofNat n))
  /-- The numbers add up. -/
  sum : sumOf a.count Severity.descending = a.issues.length

/-- The whole reports on some workflows are the parts on each of them and nothing else about
issues, except for the line on all workflows. -/
structure MadeOfParts (stamp : Stamp) (analyses : List Analysis) : Prop where
  terminal : text false analyses
    = String.join (analyses.map fun a => Span.render false (analysisSpans a) ++ "\n") ++
      foundLine (fun s => sumOf (·.count s) analyses) analyses.length ++
      Span.render false (verdictSpans analyses)
  markdown : Report.markdown stamp analyses
    = "# " ++ title ++ "\n\n_Generated " ++ stamp.date ++ "_\n\n" ++
      String.join (analyses.map analysisText)
  /-- A single analysis is not put into a list. -/
  single : ∀ a, analyses = [a] → json stamp analyses = (entryJson stamp a).pretty
  several : analyses.length ≠ 1 →
    json stamp analyses = (WorkflowLint.Json.array (analyses.map (entryJson stamp))).pretty
  page : ∃ front back, html stamp analyses
    = front ++ "\n    ".intercalate (analyses.map fun a => Piece.render (workflowPieces a)) ++
      back
  pageTexts : (pagePieces stamp analyses).filterMap Piece.text?
    = analyses.flatMap fun a => (workflowPieces a).filterMap Piece.text?
  pageWords : (pagePieces stamp analyses).filterMap Piece.plain?
    = [title, styleSheet, title, stamp.date] ++
      (analyses.flatMap fun a => (workflowPieces a).filterMap Piece.plain?) ++
      [toolName ++ " v" ++ toolVersion]

/-- All reports show the same issues. For every workflow, the page, the report for
terminals and the report in Markdown list its issues in one order, each issue once and with
all that there is to say about it, and the numbers of issues in all four formats are the same
and add up. The reports on several workflows are made of these parts, and a report for
terminals also shows the sums of the numbers. -/
theorem showIssuesAlike :
    (∀ a : Analysis, ShowAlike a) ∧
      ∀ (stamp : Stamp) (analyses : List Analysis), MadeOfParts stamp analyses := by
  refine ⟨fun a => ?_, fun stamp analyses => ?_⟩
  · exact
      { order := sortedIssues_eq a
        once := perm_sortedIssues a
        stable := filter_sortedIssues a
        table := exists_render_workflowPieces_eq a
        page := texts_workflowPieces a
        terminal := render_analysisSpans a
        styled := flatMap_groupSpans a
        markdown := analysisText_eq a
        listed := fun _ => rfl
        sizes := length_runs a
        legend := words_workflowPieces a
        summary := fun _ => rfl
        sum := sum_count a }
  · refine
      { terminal := text_eq analyses
        markdown := rfl
        single := ?_
        several := ?_
        page := exists_html_eq stamp analyses
        pageTexts := texts_pagePieces stamp analyses
        pageWords := words_pagePieces stamp analyses }
    · rintro a rfl
      rfl
    · intro hlength
      rw [json, reportJson]
      rintro a rfl
      exact hlength rfl

end WorkflowLint.Report
