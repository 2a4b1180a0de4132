import WorkflowLint.Proofs.RuleChoice

/-!
# `WorkflowLint.Proofs.Recommendation`: advice and rules agree

Recommendations and rules look at a workflow in two ways. Recommendations count the
activities, which are the elements below the root element. The rules on log messages and
on error handling count elements of the whole document. The two counts of a kind differ
by the root element alone (`Document.countKind_eq`), so they agree unless the root element
is itself of the kind.

Then advice on logging is given exactly where `LOG-001` is reported, with the severity
that goes with the advice, and advice on error handling goes together with `ERR-001` as
far as it can: the rule also reports workflows that have containers and few activities.
`ofSource_advice` says so for whole analyses.

Each piece of advice has a text of its own, and the fifth letter already tells most of
them apart; that is how a text that lists names of activities is known not to be one of
the others (`fifthLetter_of_mem_timeouts`).
-/

set_option autoImplicit false

namespace WorkflowLint

/-! ### Counting elements and activities -/

/-- The elements of a kind are the activities of this kind and perhaps the root element, which is
no activity. Here the two ways of counting meet. -/
theorem Document.countKind_eq (d : Document) (k : Kind) :
    d.countKind k = Insight.count d.activities k + if d.root.kind = k then 1 else 0 := by
  have hbelow : (d.root.below.filter fun e => e.kind == k).length
      = Insight.count d.activities k := by
    rw [Insight.count, Document.activities, List.filter_map, List.length_map]
    rfl
  rw [Document.countKind, Document.ofKind, Document.elements, Xml.Element.withBelow,
    List.filter_cons]
  by_cases hroot : d.root.kind = k
  · rw [if_pos (beq_iff_eq.mpr hroot), if_pos hroot, List.length_cons, hbelow]
  · rw [if_neg (by simpa using hroot), if_neg hroot, hbelow, Nat.add_zero]

/-! ### When advice is given -/

namespace Insight

/-- The fifth letter of a text. It tells the pieces of advice apart. -/
def fifthLetter (s : String) : Option Char := s.toList[4]?

/-- The fifth letter of a literal is read off its first characters, whatever stands behind. -/
theorem fifthLetter_literal (a b c d e : Char) (rest : List Char) :
    fifthLetter (String.ofList (a :: b :: c :: d :: e :: rest)) = some e := by
  rw [fifthLetter, String.toList_ofList]
  rfl

/-- The fifth letter stays when something is appended, because it exists. -/
theorem fifthLetter_append {s : String} {e : Char} (h : fifthLetter s = some e) (t : String) :
    fifthLetter (s ++ t) = some e := by
  rw [fifthLetter] at h
  obtain ⟨hlength, -⟩ := List.getElem?_eq_some_iff.mp h
  rw [fifthLetter, String.toList_append, List.getElem?_append_left hlength, h]

/-- The advice on error handling is put together from several texts; the first one already
decides. -/
theorem fifthLetter_handlingAdvice : fifthLetter handlingAdvice = some 'g' :=
  fifthLetter_append (fifthLetter_append (fifthLetter_literal _ _ _ _ _ _) _) _

/-- So is the advice to log. -/
theorem fifthLetter_loggingAdvice : fifthLetter loggingAdvice = some 'l' :=
  fifthLetter_append (fifthLetter_literal _ _ _ _ _ _) _

/-- And the advice to log in more detail. -/
theorem fifthLetter_detailAdvice : fifthLetter detailAdvice = some 'i' :=
  fifthLetter_append (fifthLetter_literal _ _ _ _ _ _) _

/-- What is said where there is no advice shares its fifth letter with the advice on timeouts, and
with no other. -/
theorem fifthLetter_noAdvice : fifthLetter noAdvice = some 'e' :=
  fifthLetter_literal _ _ _ _ _ _

/-- All advice on timeouts has the same fifth letter, whatever names it lists. Names of activities
can be any text, so this advice cannot be told apart by its whole wording. -/
theorem fifthLetter_of_mem_timeouts {activities : List Activity} {s : String}
    (h : s ∈ timeouts activities) : fifthLetter s = some 'e' := by
  unfold timeouts at h
  simp only at h
  split at h
  · cases h
  split at h
  · rw [List.mem_singleton.mp h]
    exact fifthLetter_append (fifthLetter_append (fifthLetter_literal _ _ _ _ _ _) _) _
  · rw [List.mem_singleton.mp h]
    exact fifthLetter_append (fifthLetter_append (fifthLetter_append
      (fifthLetter_append (fifthLetter_literal _ _ _ _ _ _) _) _) _) _

/-- Three pieces of advice are three texts. They differ in their fifth letter, which saves
comparing the rest. -/
theorem handlingAdvice_ne_loggingAdvice : handlingAdvice ≠ loggingAdvice := by
  refine ne_of_apply_ne fifthLetter ?_
  rw [fifthLetter_handlingAdvice, fifthLetter_loggingAdvice]
  decide

/-- The advice on error handling is not that on detail, by the same letter. -/
theorem handlingAdvice_ne_detailAdvice : handlingAdvice ≠ detailAdvice := by
  refine ne_of_apply_ne fifthLetter ?_
  rw [fifthLetter_handlingAdvice, fifthLetter_detailAdvice]
  decide

/-- Nor is the advice to log the advice to log more. -/
theorem loggingAdvice_ne_detailAdvice : loggingAdvice ≠ detailAdvice := by
  refine ne_of_apply_ne fifthLetter ?_
  rw [fifthLetter_loggingAdvice, fifthLetter_detailAdvice]
  decide

section
variable (activities : List Activity) (t : Thresholds)

/-- When a text that is neither advice on timeouts nor what is said instead of advice is
recommended. -/
theorem mem_recommendations_iff {s : String} (h : fifthLetter s ≠ some 'e') :
    s ∈ recommendations activities t ↔
      (s = handlingAdvice ∧
        count activities .tryCatch = 0 ∧ activities.length > t.maxActivitiesWithoutTryCatch) ∨
      (s = loggingAdvice ∧ count activities .logMessage = 0) ∨
      (s = detailAdvice ∧
        count activities .logMessage ≠ 0 ∧ count activities .logMessage < t.minLogMessages) := by
  have htimeouts : s ∉ timeouts activities := fun hmem => h (fifthLetter_of_mem_timeouts hmem)
  -- Neither advice on timeouts nor the absence of advice has this fifth letter, so three pieces
  -- of advice are left.
  have hnone : s ≠ noAdvice := fun heq => h (heq ▸ fifthLetter_noAdvice)
  have hadvice : s ∈ recommendations activities t ↔ s ∈ advice activities t := by
    unfold recommendations
    simp only
    split
    · rename_i hempty
      simp [List.isEmpty_iff.mp hempty, hnone]
    · rfl
  rw [hadvice, advice, List.mem_append, List.mem_append, or_iff_left htimeouts]
  refine or_congr ?_ ?_
  · split <;> simp_all
  · simp only
    split
    · simp_all
    · split <;> simp_all

/-- The advice on error handling is given where nothing is handled and there are many activities. -/
theorem handlingAdvice_mem_iff :
    handlingAdvice ∈ recommendations activities t ↔
      count activities .tryCatch = 0 ∧ activities.length > t.maxActivitiesWithoutTryCatch := by
  rw [mem_recommendations_iff activities t (by rw [fifthLetter_handlingAdvice]; decide)]
  simp [handlingAdvice_ne_loggingAdvice, handlingAdvice_ne_detailAdvice]

/-- The advice to log is given where nothing is logged, be it that there is nothing to log. -/
theorem loggingAdvice_mem_iff :
    loggingAdvice ∈ recommendations activities t ↔ count activities .logMessage = 0 := by
  rw [mem_recommendations_iff activities t (by rw [fifthLetter_loggingAdvice]; decide)]
  simp [handlingAdvice_ne_loggingAdvice.symm, loggingAdvice_ne_detailAdvice]

/-- The advice to log in more detail is given where something is logged, but less than the
threshold asks for. -/
theorem detailAdvice_mem_iff :
    detailAdvice ∈ recommendations activities t ↔
      count activities .logMessage ≠ 0 ∧ count activities .logMessage < t.minLogMessages := by
  rw [mem_recommendations_iff activities t (by rw [fifthLetter_detailAdvice]; decide)]
  simp [handlingAdvice_ne_detailAdvice.symm, loggingAdvice_ne_detailAdvice.symm]

end

end Insight

/-! ### What the rules report -/

namespace Rule

/-- The rule on log messages reports at most one issue, and how many log messages there are
decides its severity. -/
theorem severities_logVolume (s : Subject) :
    (logVolume s).map (·.severity)
      = if s.facts.activities = [] then []
        else if s.document.countKind .logMessage = 0 then [.critical]
        else if s.document.countKind .logMessage < s.thresholds.minLogMessages then [.medium]
        else [] := by
  simp only [logVolume, List.isEmpty_iff, apply_ite (List.map Issue.severity), List.map_cons,
    List.map_nil]

/-- So does the rule on missing error handling; containers and activities decide the
severity. -/
theorem severities_missingErrorHandling (s : Subject) :
    (missingErrorHandling s).map (·.severity)
      = if s.document.countKind .tryCatch > 0 then []
        else if containerCount s > 0 then [.critical]
        else if s.facts.activities.length > s.thresholds.maxActivitiesWithoutTryCatch then [.high]
        else [] := by
  simp only [missingErrorHandling, apply_ite (List.map Issue.severity), List.map_cons,
    List.map_nil]

end Rule

/-! ### Analyses -/

namespace Analysis

/-- An issue of a rule with a severity is among the issues. -/
def Reports (a : Analysis) (id : String) (s : Severity) : Prop :=
  ∃ i ∈ a.issues, i.rule = id ∧ i.severity = s

/-- A rule that runs has the issues with its identifier to itself. -/
theorem reports_iff (d : Document) (p : Project) {c : Config} {r : Rule}
    (hr : r ∈ Rule.catalogue) (hruns : c.enables r.id = true) (s : Severity) :
    (ofDocument d p c).Reports r.id s
      ↔ s ∈ (r.issues (.of d c.thresholds)).map (·.severity) := by
  have hissues := Subject.mem_issues_iff (.of d c.thresholds) hr hruns
  rw [List.mem_map]
  constructor
  · rintro ⟨i, hi, hrule, hseverity⟩
    exact ⟨i, (hissues i).mp ⟨hi, hrule⟩, hseverity⟩
  · rintro ⟨i, hi, hseverity⟩
    obtain ⟨hmem, hrule⟩ := (hissues i).mpr hi
    exact ⟨i, hmem, hrule, hseverity⟩

section
variable {d : Document} (p : Project) {c : Config}

/-- Whether advice on logging is given and what `LOG-001` reports both follow from how many
log messages there are. -/
theorem loggingAdvice_iff_reports (hactivities : d.activities ≠ [])
    (hroot : d.root.kind ≠ .logMessage) (hruns : c.enables "LOG-001" = true) :
    (Insight.loggingAdvice ∈ (ofDocument d p c).recommendations ↔
      (ofDocument d p c).Reports "LOG-001" .critical) ∧
    (Insight.detailAdvice ∈ (ofDocument d p c).recommendations ↔
      (ofDocument d p c).Reports "LOG-001" .medium) := by
  -- The root is no log message, so the rule and the advice count the same.
  have hcount : d.countKind .logMessage = Insight.count d.activities .logMessage := by
    rw [d.countKind_eq, if_neg hroot, Nat.add_zero]
  have hrule : ⟨"LOG-001", "No or low logging", Rule.logVolume⟩ ∈ Rule.catalogue := by
    simp [Rule.catalogue]
  have hseverities : (Rule.logVolume (.of d c.thresholds)).map (·.severity)
      = if Insight.count d.activities .logMessage = 0 then [.critical]
        else if Insight.count d.activities .logMessage < c.thresholds.minLogMessages
          then [.medium] else [] := by
    rw [← hcount]
    exact (Rule.severities_logVolume _).trans (if_neg hactivities)
  rw [reports_iff d p hrule hruns, reports_iff d p hrule hruns, hseverities]
  refine ⟨(Insight.loggingAdvice_mem_iff d.activities c.thresholds).trans ?_,
    (Insight.detailAdvice_mem_iff d.activities c.thresholds).trans ?_⟩
  -- The cases are those of the rule: no log message, too few of them, enough.
  all_goals
    split
    · simp_all
    · split <;> simp_all

/-- Advice on error handling is given only where `ERR-001` reports something, and wherever
the rule reports that there is too much to do. -/
theorem handlingAdvice_reports (hroot : d.root.kind ≠ .tryCatch)
    (hruns : c.enables "ERR-001" = true) :
    (Insight.handlingAdvice ∈ (ofDocument d p c).recommendations →
      ∃ s, (ofDocument d p c).Reports "ERR-001" s) ∧
    ((ofDocument d p c).Reports "ERR-001" .high →
      Insight.handlingAdvice ∈ (ofDocument d p c).recommendations) := by
  have hcount : d.countKind .tryCatch = Insight.count d.activities .tryCatch := by
    rw [d.countKind_eq, if_neg hroot, Nat.add_zero]
  have hrule : ⟨"ERR-001", "Missing error handling", Rule.missingErrorHandling⟩
      ∈ Rule.catalogue := by
    simp [Rule.catalogue]
  have hseverities : (Rule.missingErrorHandling (.of d c.thresholds)).map (·.severity)
      = if Insight.count d.activities .tryCatch > 0 then []
        else if Rule.containerCount (.of d c.thresholds) > 0 then [.critical]
        else if d.activities.length > c.thresholds.maxActivitiesWithoutTryCatch then [.high]
        else [] := by
    rw [← hcount]
    exact Rule.severities_missingErrorHandling _
  have hreports := reports_iff d p hrule hruns
  have hadvice := Insight.handlingAdvice_mem_iff d.activities c.thresholds
  simp only [hseverities] at hreports
  constructor
  · intro hgiven
    obtain ⟨hnone, hmany⟩ := hadvice.mp hgiven
    rw [if_neg (by omega), if_pos hmany] at hreports
    -- A container makes the issue critical; without one there is still too much to do.
    by_cases hcontainers : Rule.containerCount (.of d c.thresholds) > 0
    · exact ⟨.critical, (hreports _).mpr (by simp [hcontainers])⟩
    · exact ⟨.high, (hreports _).mpr (by simp [hcontainers])⟩
  · intro hhigh
    have hmem := (hreports .high).mp hhigh
    refine hadvice.mpr ?_
    split at hmem
    · cases hmem
    split at hmem
    · simp at hmem
    split at hmem
    · rename_i hnone _ hmany
      exact ⟨by omega, hmany⟩
    · cases hmem

end

/-- Advice and rules agree. Take a text that is a document with at least one activity, and
a configuration under which the two rules run. If the root element is no log message, the
advice to log is given exactly where `LOG-001` is reported as critical, and the advice to
log in more detail exactly where it is reported as medium. If the root element is no error
handler, `ERR-001` is reported wherever the advice to handle errors is given, and this
advice is given wherever `ERR-001` is reported as high. -/
theorem ofSource_advice {source file : String} {d : Document}
    (hread : Document.read source file = .ok d) (hactivities : d.activities ≠ [])
    (p : Project) {c : Config} (hlog : c.enables "LOG-001" = true)
    (herr : c.enables "ERR-001" = true) :
    ∃ a, ofSource source file p c = .ok a ∧
      (d.root.kind ≠ .logMessage →
        (Insight.loggingAdvice ∈ a.recommendations ↔ a.Reports "LOG-001" .critical) ∧
        (Insight.detailAdvice ∈ a.recommendations ↔ a.Reports "LOG-001" .medium)) ∧
      (d.root.kind ≠ .tryCatch →
        (Insight.handlingAdvice ∈ a.recommendations → ∃ s, a.Reports "ERR-001" s) ∧
        (a.Reports "ERR-001" .high → Insight.handlingAdvice ∈ a.recommendations)) :=
  ⟨_, ofSource_eq_ok hread p c,
    fun hroot => loggingAdvice_iff_reports p hactivities hroot hlog,
    fun hroot => handlingAdvice_reports p hroot herr⟩

/-- A workflow that logs once and clicks five times, all of it unprotected: six activities, one
more than go without error handling. -/
def unguarded : String :=
  "<Activity><LogMessage /><Click /><Click /><Click /><Click /><Click /></Activity>"

/-- The workflow is advised to log in more detail and to handle errors, and both rules
report it; it is not advised to start logging, and `LOG-001` is not critical. -/
theorem ofSource_advice_unguarded :
    ∃ d a, Document.read unguarded "Main.xaml" = .ok d ∧ d.activities ≠ [] ∧
      d.root.kind ≠ .logMessage ∧ d.root.kind ≠ .tryCatch ∧
      ofSource unguarded "Main.xaml" {} {} = .ok a ∧
      (Insight.loggingAdvice ∉ a.recommendations ∧ ¬ a.Reports "LOG-001" .critical) ∧
      (Insight.detailAdvice ∈ a.recommendations ∧ a.Reports "LOG-001" .medium) ∧
      (Insight.handlingAdvice ∈ a.recommendations ∧ ∃ s, a.Reports "ERR-001" s) := by
  obtain ⟨d, hread, hroot, hlength, hlogs, hhandlers⟩ :
      ∃ d, Document.read unguarded "Main.xaml" = .ok d ∧
        d.root.kind = .other "Activity" ∧ d.activities.length = 6 ∧
        Insight.count d.activities .logMessage = 1 ∧ Insight.count d.activities .tryCatch = 0 :=
    exists_ok_of_any (by decide +kernel)
  have hactivities : d.activities ≠ [] := List.ne_nil_of_length_eq_add_one hlength
  have hnoLog : d.root.kind ≠ .logMessage := by rw [hroot]; decide
  have hnoHandler : d.root.kind ≠ .tryCatch := by rw [hroot]; decide
  obtain ⟨a, ha, hlogging, hhandling⟩ :=
    ofSource_advice (c := {}) hread hactivities {} (by decide) (by decide)
  -- The advice in the analysis is the advice for the activities of the document.
  have hrecommendations : a.recommendations = Insight.recommendations d.activities {} := by
    rw [ofSource_eq_ok hread] at ha
    cases ha
    rfl
  obtain ⟨hstart, hdetail⟩ := hlogging hnoLog
  obtain ⟨hreported, -⟩ := hhandling hnoHandler
  have hunadvised : Insight.loggingAdvice ∉ a.recommendations := by
    rw [hrecommendations, Insight.loggingAdvice_mem_iff, hlogs]
    decide
  have hadvised : Insight.detailAdvice ∈ a.recommendations := by
    rw [hrecommendations, Insight.detailAdvice_mem_iff, hlogs]
    decide
  have hurged : Insight.handlingAdvice ∈ a.recommendations := by
    rw [hrecommendations, Insight.handlingAdvice_mem_iff, hhandlers, hlength]
    decide
  exact ⟨d, a, hread, hactivities, hnoLog, hnoHandler, ha,
    ⟨hunadvised, fun hcritical => hunadvised (hstart.mpr hcritical)⟩,
    ⟨hadvised, hdetail.mp hadvised⟩, hurged, hreported hurged⟩

end Analysis

end WorkflowLint
