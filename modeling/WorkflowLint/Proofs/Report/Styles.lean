import WorkflowLint.Proofs.Report.Issues

/-!
# `WorkflowLint.Proofs.Report.Styles`: colours are decoration

`unstyled` takes the style sequences out of a text, each from an escape character and a
bracket to the next `m`. `unstyled_text` says that a report for terminals with colours
becomes the report without colours in this way. What a reader sees in either is the same.

The texts in the report must have no escape characters of their own. One would be shown in
both reports, and taken out of one only. What the tool writes itself has none: labels,
numbers and scores (`lacks_onePlace`). So every span of a report is free of them
(`unescaped_textSpans`), and the rest is the scan of one span after the other.

* A text without escape characters is passed through (`unstyledFrom_append`).
* The sequences around a styled text are taken out, and the scan is outside of a sequence
  behind each of them (`unstyledFrom_start`).
-/

set_option autoImplicit false

namespace WorkflowLint.Report

/-! ### Taking styles out -/

/-- A list of characters without the style sequences in it, if it starts inside of one or
not. -/
def unstyledFrom : Bool → List Char → List Char
  | _, [] => []
  | true, c :: rest => unstyledFrom (c ≠ 'm') rest
  | false, '\x1b' :: '[' :: rest => unstyledFrom true rest
  | false, c :: rest => c :: unstyledFrom false rest

/-- A text without the style sequences in it, each from an escape character and a bracket
to the next `m`. -/
def unstyled (s : String) : String := String.ofList (unstyledFrom false s.toList)

example : unstyled "a\x1b[1;31mmb\x1b[0m[0m\x1bm" = "amb[0m\x1bm" := by decide +kernel

/-- A character that is no escape character is passed through, if the scan is outside of a
sequence. -/
theorem unstyledFrom_cons {c : Char} (h : c ≠ '\x1b') (rest : List Char) :
    unstyledFrom false (c :: rest) = c :: unstyledFrom false rest := by
  rw [unstyledFrom]
  intro _ hc
  exact absurd hc h

/-- So is a text without escape characters, whatever comes behind it. -/
theorem unstyledFrom_append {l : List Char} (h : '\x1b' ∉ l) (rest : List Char) :
    unstyledFrom false (l ++ rest) = l ++ unstyledFrom false rest := by
  induction l with
  | nil => rfl
  | cons c l ih =>
      rw [List.mem_cons, not_or] at h
      rw [List.cons_append, unstyledFrom_cons (Ne.symm h.1), ih h.2, List.cons_append]

/-- The codes of a style sequence are passed over, up to its end, which is the first `m`. No code
contains that letter. -/
theorem unstyledFrom_codes {codes : List Char} (h : 'm' ∉ codes) (rest : List Char) :
    unstyledFrom true (codes ++ 'm' :: rest) = unstyledFrom false rest := by
  induction codes with
  | nil => rfl
  | cons c codes ih =>
      rw [List.mem_cons, not_or] at h
      -- The scan stays inside of the sequence, as this is not its end.
      have hc : decide (c ≠ 'm') = true := decide_eq_true (Ne.symm h.1)
      rw [List.cons_append, unstyledFrom, hc, ih h.2]

/-- The sequence that starts a style is taken out, whichever style it is. -/
theorem unstyledFrom_start (style : Style) (rest : List Char) :
    unstyledFrom false (style.start ++ rest) = unstyledFrom false rest := by
  have hcodes : 'm' ∉ style.codes.toList := by
    cases style <;> decide +kernel
  rw [Style.start, List.cons_append, List.cons_append, unstyledFrom, List.append_assoc]
  exact unstyledFrom_codes hcodes rest

/-- The sequence that ends all styles is taken out, and the scan is outside of sequences behind
it. -/
theorem unstyledFrom_reset (rest : List Char) :
    unstyledFrom false (resetSequence ++ rest) = unstyledFrom false rest := rfl

/-- A text without escape characters ends no style, so none is started again in it and it is
painted as it is. -/
theorem restarted_eq {l : List Char} (h : '\x1b' ∉ l) (start : List Char) :
    restarted start l = l := by
  induction l with
  | nil => rfl
  | cons c l ih =>
      rw [List.mem_cons, not_or] at h
      rw [restarted, ih h.2]
      intro _ hc
      exact absurd hc.symm h.1

/-! ### Texts without a character -/

/-- A text that a character does not occur in. -/
def Lacks (c : Char) (s : String) : Prop := c ∉ s.toList

instance (c : Char) (s : String) : Decidable (Lacks c s) :=
  inferInstanceAs (Decidable (c ∉ s.toList))

section
variable {c : Char}

/-- A literal lacks what is not among its characters, which is decided for each literal by looking
at them. -/
theorem lacks_literal {l : List Char} (h : c ∉ l) : Lacks c (String.ofList l) := by
  rw [Lacks, String.toList_ofList]
  exact h

/-- A text put together from two lacks what both of them lack. The texts of a report are put
together in this way from literals and what is shown. -/
theorem Lacks.append {s t : String} (hs : Lacks c s) (ht : Lacks c t) : Lacks c (s ++ t) := by
  rw [Lacks, String.toList_append, List.mem_append, not_or]
  exact ⟨hs, ht⟩

/-- A number lacks what is no digit, however large it is. -/
theorem lacks_toString (h : c.isDigit = false) (n : Nat) : Lacks c (toString n) := by
  rw [Nat.toString_eq_ofList_toDigits]
  refine lacks_literal fun hmem => ?_
  rw [Nat.isDigit_of_mem_toDigits (by decide) (by decide) hmem] at h
  cases h

/-- A score lacks what is neither a digit, nor a sign, nor the point, nor in the name of a value
that is no finite number. All shapes that a number can be written in are gone through. -/
theorem lacks_onePlace (hdigit : c.isDigit = false) (h : c ∉ ['-', '.', 'N', 'a', 'i', 'n', 'f'])
    (x : Float) : Lacks c (Decimal.onePlace x) := by
  -- The literals in question only have characters from this list.
  have hliteral : ∀ {l : List Char}, l ⊆ ['-', '.', 'N', 'a', 'i', 'n', 'f'] →
      Lacks c (String.ofList l) := fun hl => lacks_literal fun hmem => h (hl hmem)
  unfold Decimal.onePlace
  split
  · exact hliteral (by decide)
  · rename_i negative _
    cases negative with
    | false => exact hliteral (by decide)
    | true => exact hliteral (by decide)
  · rename_i negative m q _
    refine .append (.append (.append ?_ (lacks_toString hdigit _)) (hliteral (by decide)))
      (lacks_toString hdigit _)
    cases negative with
    | false => exact hliteral (by decide)
    | true => exact hliteral (by decide)

end

/-! ### Spans -/

/-- A span without escape characters shows its text once its style is taken out, and so does what
follows it. Behind the span the scan is outside of a sequence again. -/
theorem unstyledFrom_shown {span : Span} (h : Lacks '\x1b' span.text) (rest : List Char) :
    unstyledFrom false (span.shown true ++ rest) = span.shown false ++ unstyledFrom false rest := by
  obtain ⟨style?, text⟩ := span
  cases style? with
  | none => exact unstyledFrom_append h rest
  | some style =>
      -- A styled text stands between a start and a reset.
      show unstyledFrom false (style.paint text.toList ++ rest)
        = text.toList ++ unstyledFrom false rest
      rw [Style.paint, restarted_eq h, List.append_assoc, List.append_assoc, unstyledFrom_start,
        unstyledFrom_append h, unstyledFrom_reset]

/-- So do spans one after the other. The scan of the whole is that of one span after the other,
since each leaves it outside of a sequence. -/
theorem unstyled_render {spans : List Span} (h : ∀ span ∈ spans, Lacks '\x1b' span.text) :
    unstyled (Span.render true spans) = Span.render false spans := by
  have hchars : unstyledFrom false (spans.flatMap (Span.shown true))
      = spans.flatMap (Span.shown false) := by
    induction spans with
    | nil => rfl
    | cons span rest ih =>
        rw [List.flatMap_cons, List.flatMap_cons, unstyledFrom_shown (h span (by simp)),
          ih fun s hs => h s (List.mem_cons_of_mem _ hs)]
  rw [unstyled, Span.render, Span.render, String.toList_ofList, hchars]

/-! ### The spans of a report -/

/-- The texts of an issue. -/
def issueTexts (i : Issue) : List String :=
  [i.rule, i.title, i.location, i.description, i.solution]

/-- The texts of an analysis that a report for terminals shows. -/
def shownTexts (a : Analysis) : List String :=
  [a.file, a.workflowName, a.workflowPurpose] ++ a.issues.flatMap issueTexts ++ a.recommendations

/-- Spans without escape characters. -/
def Unescaped (spans : List Span) : Prop := ∀ span ∈ spans, Lacks '\x1b' span.text

namespace Unescaped

/-- No spans have no escape characters. This is where a report ends. -/
theorem nil : Unescaped [] := fun _ h => nomatch h

/-- Spans are looked at one by one, so the proofs below follow the lists that the report is made
of. -/
theorem cons {span : Span} {rest : List Span} (hspan : Lacks '\x1b' span.text)
    (hrest : Unescaped rest) : Unescaped (span :: rest) :=
  List.forall_mem_cons.mpr ⟨hspan, hrest⟩

/-- What is put together from two lists of spans is free of escape characters if both are. -/
theorem append {front back : List Span} (hfront : Unescaped front) (hback : Unescaped back) :
    Unescaped (front ++ back) :=
  List.forall_mem_append.mpr ⟨hfront, hback⟩

/-- So is what is made of a list piece by piece, which is how issues and workflows are shown. -/
theorem flatMap {α : Type} {l : List α} {f : α → List Span} (h : ∀ x ∈ l, Unescaped (f x)) :
    Unescaped (l.flatMap f) := by
  intro span hspan
  obtain ⟨x, hx, hspan⟩ := List.mem_flatMap.mp hspan
  exact h x hx span hspan

/-- Spans that may be left out do no harm: with or without them there is no escape character. -/
theorem unlessEmpty {spans : List Span} (h : Unescaped spans) (text : String) :
    Unescaped (unlessEmpty text spans) := by
  rw [Report.unlessEmpty]
  split
  · exact nil
  · exact h

end Unescaped

/-- The names of severities, large and small, and of ratings are words of letters. -/
theorem lacks_label (s : Severity) : Lacks '\x1b' s.label := by
  cases s <;> exact lacks_literal (by decide)

/-- The small names are as harmless as the large ones. -/
theorem lacks_smallLabel (s : Severity) : Lacks '\x1b' s.smallLabel := by
  cases s <;> exact lacks_literal (by decide)

/-- So are the names of ratings, which stand beside the score. -/
theorem lacks_ratingLabel (r : Rating) : Lacks '\x1b' r.label := by
  cases r <;> exact lacks_literal (by decide)

/-- A count is a number and is written in digits. -/
theorem lacks_count (n : Nat) : Lacks '\x1b' (toString n) := lacks_toString (by decide) n

/-- A score has one digit behind the point, and none of its shapes has an escape character. -/
theorem lacks_score (x : Float) : Lacks '\x1b' (Decimal.onePlace x) :=
  lacks_onePlace (by decide) (by decide) x

/-- The entry of an issue has no escape characters if its own texts have none. What stands around
them are marks, brackets and line breaks. -/
theorem unescaped_issueSpans {i : Issue} (h : ∀ s ∈ issueTexts i, Lacks '\x1b' s) :
    Unescaped (issueSpans i) := by
  simp only [issueTexts, List.forall_mem_cons, List.not_mem_nil, false_implies, implies_true,
    and_true] at h
  -- The spans of an entry are short texts put around these five.
  obtain ⟨hrule, htitle, hlocation, hdescription, hsolution⟩ := h
  have hheading : Lacks '\x1b' ("[" ++ i.rule ++ "]: " ++ i.title) :=
    (((lacks_literal (by decide)).append hrule).append (lacks_literal (by decide))).append htitle
  have hplace : Lacks '\x1b' ("(" ++ i.location ++ ")") :=
    ((lacks_literal (by decide)).append hlocation).append (lacks_literal (by decide))
  -- Location, description and solution are left out when they are empty, so each is a case of its
  -- own.
  have hline : Lacks '\x1b' "\n      " := lacks_literal (by decide)
  have hfix : Lacks '\x1b' ("fix: " ++ i.solution) := (lacks_literal (by decide)).append hsolution
  refine .append (.append (.append (.append ?_ ?_) ?_) ?_) ?_
  · exact .cons (lacks_literal (by decide)) (.cons (lacks_smallLabel _) (.cons hheading .nil))
  · refine .unlessEmpty ?_ _
    exact .cons (lacks_literal (by decide)) (.cons hplace .nil)
  · refine .unlessEmpty ?_ _
    exact .cons (hline.append hdescription) .nil
  · refine .unlessEmpty ?_ _
    exact .cons hline (.cons hfix .nil)
  · exact .cons (lacks_literal (by decide)) .nil

/-- So has the group of all issues of a severity, with its heading and its count. -/
theorem unescaped_groupSpans {a : Analysis} (h : ∀ s ∈ shownTexts a, Lacks '\x1b' s)
    (severity : Severity) : Unescaped (groupSpans a severity) := by
  -- An issue of one severity is an issue of the workflow.
  have hissue : ∀ i ∈ a.issuesOf severity, Unescaped (issueSpans i) := by
    intro i hi
    refine unescaped_issueSpans fun s hs => h s ?_
    have hmem : s ∈ a.issues.flatMap issueTexts :=
      List.mem_flatMap.mpr ⟨i, (List.mem_filter.mp hi).1, hs⟩
    exact List.mem_append_left _ (List.mem_append_right _ hmem)
  have hheading : Lacks '\x1b' (severity.label ++ " (" ++
      toString (a.issuesOf severity).length ++ ")") :=
    (((lacks_label _).append (lacks_literal (by decide))).append (lacks_count _)).append
      (lacks_literal (by decide))
  rw [groupSpans]
  split
  · exact .nil
  · exact .append (.cons (lacks_literal (by decide))
      (.cons hheading (.cons (lacks_literal (by decide)) .nil))) (.flatMap hissue)

/-- So has the list of recommendations, if the recommendations have none. -/
theorem unescaped_recommendationSpans {recommendations : List String}
    (h : ∀ s ∈ recommendations, Lacks '\x1b' s) :
    Unescaped (recommendationSpans recommendations) := by
  have hlines : Unescaped (recommendations.map fun r => .plain ("    - " ++ r ++ "\n")) := by
    intro span hspan
    obtain ⟨r, hr, rfl⟩ := List.mem_map.mp hspan
    exact ((lacks_literal (by decide)).append (h r hr)).append (lacks_literal (by decide))
  rw [recommendationSpans]
  split
  · exact .nil
  · exact .append (.cons (lacks_literal (by decide)) (.cons (lacks_literal (by decide))
      (.cons (lacks_literal (by decide)) .nil))) hlines

/-- What is shown of a workflow has no escape characters if the texts of the workflow have none.
Name, purpose and file are among these texts; the numbers are no problem. -/
theorem unescaped_analysisSpans {a : Analysis} (h : ∀ s ∈ shownTexts a, Lacks '\x1b' s) :
    Unescaped (analysisSpans a) := by
  have hfile := h a.file (by simp [shownTexts])
  have hname := h a.workflowName (by simp [shownTexts])
  have hpurpose := h a.workflowPurpose (by simp [shownTexts])
  have hrecommendations : ∀ s ∈ a.recommendations, Lacks '\x1b' s := fun s hs =>
    h s (List.mem_append_right _ hs)
  have hintro : Lacks '\x1b' ("\n  Workflow: " ++ a.workflowName ++ "\n  Purpose: " ++
      a.workflowPurpose ++ "\n  Health score: ") :=
    ((((lacks_literal (by decide)).append hname).append (lacks_literal (by decide))).append
      hpurpose).append (lacks_literal (by decide))
  have hscore : Lacks '\x1b' (Decimal.onePlace a.healthScore ++ "/100 (" ++ a.rating.label ++
      ")") :=
    (((lacks_score _).append (lacks_literal (by decide))).append (lacks_ratingLabel _)).append
      (lacks_literal (by decide))
  have hcounts : Lacks '\x1b' ("\n  Activities: " ++ toString a.activities.length ++
      ", variables: " ++ toString a.declared.length ++ "\n") :=
    ((((lacks_literal (by decide)).append (lacks_count _)).append (lacks_literal (by decide))).append
      (lacks_count _)).append (lacks_literal (by decide))
  refine .append (.append ?_ ?_) ?_
  · exact .cons hfile (.cons hintro (.cons hscore (.cons hcounts .nil)))
  · exact .flatMap fun s _ => unescaped_groupSpans h s
  · exact unescaped_recommendationSpans hrecommendations

/-- The totals are numbers and words, whatever the workflows are. -/
theorem unescaped_totalSpans (analyses : List Analysis) : Unescaped (totalSpans analyses) := by
  have hpart : ∀ (s : Severity) (n : Nat), Lacks '\x1b' (toString n ++ " " ++ s.smallLabel) :=
    fun s n => ((lacks_count n).append (lacks_literal (by decide))).append (lacks_smallLabel s)
  have hcomma : Lacks '\x1b' ", " := lacks_literal (by decide)
  -- One workflow or several: an ending or none.
  have hplural : Lacks '\x1b' (if analyses.length = 1 then "" else "s") := by
    split <;> exact lacks_literal (by decide)
  have hend : Lacks '\x1b' (" in " ++ toString analyses.length ++ " workflow" ++
      (if analyses.length = 1 then "" else "s") ++ "\n") :=
    ((((lacks_literal (by decide)).append (lacks_count _)).append (lacks_literal (by decide))).append
      hplural).append (lacks_literal (by decide))
  -- The numbers come severity by severity, with the small name of each.
  rw [totalSpans, totals_eq, List.zipWith_map_right, List.zipWith_self]
  exact .append (.append (.cons (lacks_literal (by decide)) .nil)
    (.cons (hpart _ _) (.cons hcomma (.cons (hpart _ _) (.cons hcomma (.cons (hpart _ _)
      (.cons hcomma (.cons (hpart _ _) .nil)))))))) (.cons hend .nil)

/-- So is the verdict on all workflows together. -/
theorem unescaped_verdictSpans (analyses : List Analysis) : Unescaped (verdictSpans analyses) := by
  rw [verdictSpans]
  split
  · exact .nil
  · exact .cons (lacks_literal (by decide)) (.cons
      ((((lacks_ratingLabel _).append (lacks_literal (by decide))).append (lacks_score _)).append
        (lacks_literal (by decide))) (.cons (lacks_literal (by decide)) .nil))

/-- A report has no escape characters if the texts that it shows have none. This is all that the
scan needs to know of a report. -/
theorem unescaped_textSpans {analyses : List Analysis}
    (h : ∀ a ∈ analyses, ∀ s ∈ shownTexts a, Lacks '\x1b' s) : Unescaped (textSpans analyses) := by
  have hanalysis : ∀ a ∈ analyses, Unescaped (analysisSpans a ++ [.plain "\n"]) := fun a ha =>
    (unescaped_analysisSpans (h a ha)).append (.cons (lacks_literal (by decide)) .nil)
  exact .append (.append (.flatMap hanalysis) (unescaped_totalSpans analyses))
    (unescaped_verdictSpans analyses)

/-- Colours are decoration. Taking the style sequences out of a report with colours gives the
report without colours, for all workflows whose texts have no escape characters. -/
theorem unstyled_text (analyses : List Analysis)
    (h : ∀ a ∈ analyses, ∀ s ∈ shownTexts a, Lacks '\x1b' s) :
    unstyled (text true analyses) = text false analyses := by
  rw [text, text]
  exact unstyled_render (unescaped_textSpans h)

/-- An analysis whose texts look like parts of style sequences. -/
def bracketedAnalysis : Analysis where
  file := "[0m"
  workflowName := "m"
  workflowPurpose := "[1;31m"
  activities := []
  declared := []
  issues := [⟨"[", .low, .timing, "m", "", "[", "0m"⟩, ⟨"1", .high, .codeSmell, "", "[0m", "", ""⟩]
  recommendations := ["[0m]"]
  dependencies := .empty
  urls := .empty
  connections := .empty
  components := .empty
  summary := ""
  healthScore := Float.ofNat 85

/-- Brackets, codes and the letter `m` are passed through; only what an escape character starts is
taken out. The same workflow is shown twice, so a sequence is followed by texts on both sides. -/
theorem unstyled_text_bracketed :
    (∀ a ∈ [bracketedAnalysis, bracketedAnalysis], ∀ s ∈ shownTexts a, Lacks '\x1b' s) ∧
      unstyled (text true [bracketedAnalysis, bracketedAnalysis])
        = text false [bracketedAnalysis, bracketedAnalysis] := by
  have h : ∀ a ∈ [bracketedAnalysis, bracketedAnalysis], ∀ s ∈ shownTexts a, Lacks '\x1b' s := by
    decide +kernel
  exact ⟨h, unstyled_text _ h⟩

end WorkflowLint.Report
