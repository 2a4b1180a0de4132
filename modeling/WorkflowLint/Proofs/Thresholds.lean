import Mathlib.Data.List.Flatten
import WorkflowLint.Proofs.RuleChoice

/-!
# `WorkflowLint.Proofs.Thresholds`: more lenient thresholds find no more

Five rules compare with a threshold: `missingErrorHandling`, `logVolume`,
`loopLogging`, `urlQueryLength` and `nestingDepth`. Thresholds are upper limits or
lower limits, so one set of thresholds is as lenient as another when its upper
limits are at least as high and its lower limits at least as low
(`Thresholds.LenientAs`).

Two of the five rules quote their threshold in the description of an issue. The
lists of issues under different thresholds are therefore compared by what the
description leaves over, the mark of an issue. Under more lenient thresholds each
rule reports marks that are among those that it reports under the strict ones
(`fewerMarks_of_mem_catalogue`); in particular none of them turns a milder issue into
a worse one. `ofSource_lenientAs` says so for all enabled rules together, and
that the score does not go down.
-/

set_option autoImplicit false

namespace WorkflowLint

/-- Thresholds that tolerate whatever others tolerate. -/
structure Thresholds.LenientAs (lenient strict : Thresholds) : Prop where
  nestingDepth : strict.maxNestingDepth ≤ lenient.maxNestingDepth
  urlQueryLength : strict.maxUrlQueryLength ≤ lenient.maxUrlQueryLength
  activities : strict.maxActivitiesWithoutTryCatch ≤ lenient.maxActivitiesWithoutTryCatch
  loopLogMessages : lenient.minLoopLogMessages ≤ strict.minLoopLogMessages
  logMessages : lenient.minLogMessages ≤ strict.minLogMessages

/-- What an issue says apart from its description and its solution. -/
def Issue.mark (i : Issue) : String × Severity × Category × String × String :=
  (i.rule, i.severity, i.category, i.title, i.location)

/-- Issues whose marks are among the marks of others, in the same order. -/
def FewerMarks (fewer more : List Issue) : Prop :=
  (fewer.map Issue.mark).Sublist (more.map Issue.mark)

namespace FewerMarks

variable {α : Type}

/-- A rule that does not look at thresholds reports the same issues, and these have the same
marks. -/
theorem refl (issues : List Issue) : FewerMarks issues issues := List.Sublist.refl _

/-- A rule may also report nothing any more, whatever it reported before. -/
theorem nil (issues : List Issue) : FewerMarks [] issues := List.nil_sublist _

/-- At most one issue for every member of a list: it is enough that each issue that is still
reported was reported before, with the same mark. -/
theorem filterMap {f g : α → Option Issue}
    (h : ∀ a, ∀ i ∈ f a, ∃ j ∈ g a, j.mark = i.mark) (l : List α) :
    FewerMarks (l.filterMap f) (l.filterMap g) := by
  induction l with
  | nil => exact nil _
  | cons a rest ih =>
      cases hf : f a with
      | none =>
          rw [List.filterMap_cons_none hf, List.filterMap_cons]
          split
          · exact ih
          · exact ih.cons _
      -- The issue has a counterpart with the same mark in the same place.
      | some i =>
          obtain ⟨j, hj, hmark⟩ := h a i hf
          rw [List.filterMap_cons_some hf, List.filterMap_cons_some hj, FewerMarks, List.map_cons,
            List.map_cons, hmark]
          exact ih.cons_cons _

/-- The issues of several rules one after the other are compared rule by rule. -/
theorem flatMap {rules : List Rule} {s t : Subject}
    (h : ∀ r ∈ rules, FewerMarks (r.issues s) (r.issues t)) :
    FewerMarks (rules.flatMap (·.issues s)) (rules.flatMap (·.issues t)) := by
  rw [FewerMarks, List.map_flatMap, List.map_flatMap]
  exact List.Sublist.flatMap_right rules h

/-- Severities are part of the marks, so fewer marks mean a score that is no lower. -/
theorem healthScore_le {fewer more : List Issue} (h : FewerMarks fewer more) :
    healthScore more ≤ healthScore fewer := by
  have hseverities := List.Sublist.map (fun m => m.2.1) h
  rw [List.map_map, List.map_map] at hseverities
  exact healthScore_le_of_severities hseverities

end FewerMarks

/-! ### Rules with a threshold -/

namespace Rule

variable {lenient strict : Thresholds} (h : lenient.LenientAs strict) (d : Document) (f : Facts)
include h

/-- A container makes the issue critical under all thresholds, so only a workflow without one can
lose its issue: it does when the number of its activities is within the higher limit. -/
theorem fewerMarks_missingErrorHandling :
    FewerMarks (missingErrorHandling ⟨d, f, lenient⟩) (missingErrorHandling ⟨d, f, strict⟩) := by
  have hlimit := h.activities
  -- Whether there is a handler or a container does not depend on thresholds, so two of the three
  -- cases are equal.
  have hcount : containerCount ⟨d, f, lenient⟩ = containerCount ⟨d, f, strict⟩ := rfl
  unfold missingErrorHandling
  simp only [hcount]
  split
  · exact .refl _
  split
  · exact .refl _
  by_cases hmany : f.activities.length > lenient.maxActivitiesWithoutTryCatch
  -- More than the higher limit is more than the lower one.
  · have hmany' : f.activities.length > strict.maxActivitiesWithoutTryCatch := by omega
    rw [if_pos hmany, if_pos hmany']
    exact .refl _
  · rw [if_neg hmany]
    exact .nil _

/-- A workflow without log messages is reported under all thresholds, and as
critical; the limit only decides about workflows that have some. -/
theorem fewerMarks_logVolume :
    FewerMarks (logVolume ⟨d, f, lenient⟩) (logVolume ⟨d, f, strict⟩) := by
  have hlimit := h.logMessages
  unfold logVolume
  simp only
  split
  · exact .refl _
  split
  · exact .refl _
  by_cases hfew : d.countKind .logMessage < lenient.minLogMessages
  -- What is too few for the lower limit is too few for the higher one.
  · have hfew' : d.countKind .logMessage < strict.minLogMessages := by omega
    rw [if_pos hfew, if_pos hfew']
    exact .refl _
  · rw [if_neg hfew]
    exact .nil _

/-- A document that is nested too deeply under the higher limit is so under the lower one. -/
theorem fewerMarks_nestingDepth :
    FewerMarks (nestingDepth ⟨d, f, lenient⟩) (nestingDepth ⟨d, f, strict⟩) := by
  have hlimit := h.nestingDepth
  unfold nestingDepth
  simp only
  by_cases hdeep : d.depth ≤ lenient.maxNestingDepth
  · rw [if_pos hdeep]
    exact .nil _
  · have hdeep' : ¬ d.depth ≤ strict.maxNestingDepth := by omega
    rw [if_neg hdeep, if_neg hdeep']
    -- The descriptions differ in the limit that they quote, the marks do not.
    exact List.Sublist.refl _

/-- A loop with too few log messages for the lower limit has too few for the higher one. -/
theorem fewerMarks_loopLogging :
    FewerMarks (loopLogging ⟨d, f, lenient⟩) (loopLogging ⟨d, f, strict⟩) := by
  have hlimit := h.loopLogMessages
  refine .filterMap (fun loop i hi => ?_) _
  simp only at hi ⊢
  split at hi
  · cases hi
  · rename_i hfew
    have hfew' : ¬ (loop.belowNamed Kind.logMessage.tags).length ≥ strict.minLoopLogMessages := by
      omega
    rw [if_neg hfew']
    cases hi
    exact ⟨_, rfl, rfl⟩

/-- A query that is too long for the higher limit is too long for the lower one. The issue does
not quote the limit, so it is the very same. -/
theorem fewerMarks_urlQueryLength :
    FewerMarks (urlQueryLength ⟨d, f, lenient⟩) (urlQueryLength ⟨d, f, strict⟩) := by
  have hlimit := h.urlQueryLength
  refine .filterMap (fun target i hi => ?_) _
  cases hquery : (target.attr? "BrowserURL").bind query? with
  | none =>
      rw [hquery] at hi
      cases hi
  | some query =>
      simp only [hquery] at hi ⊢
      split at hi
      · rename_i hlong
        have hlong' : query.length > strict.maxUrlQueryLength := by omega
        rw [if_pos hlong']
        exact ⟨i, hi, rfl⟩
      · cases hi

/-- No rule reports more under more lenient thresholds. The rules that are not
listed above do not look at thresholds. -/
theorem fewerMarks_of_mem_catalogue :
    ∀ r ∈ catalogue, FewerMarks (r.issues ⟨d, f, lenient⟩) (r.issues ⟨d, f, strict⟩) := by
  simp only [catalogue, List.forall_mem_cons, List.not_mem_nil, false_implies, implies_true,
    and_true]
  exact ⟨fewerMarks_missingErrorHandling h d f, .refl _, .refl _, .refl _, .refl _, .refl _,
    .refl _, .refl _, fewerMarks_loopLogging h d f, fewerMarks_urlQueryLength h d f, .refl _,
    .refl _, fewerMarks_logVolume h d f, .refl _, .refl _, fewerMarks_nestingDepth h d f, .refl _,
    .refl _, .refl _, .refl _, .refl _, .refl _, .refl _⟩

end Rule

/-! ### Analyses -/

/-- Thresholds do not choose rules, so the same rules run, and each of them reports no more. -/
theorem Subject.fewerMarks_issues {lenient strict : Thresholds} (h : lenient.LenientAs strict)
    (d : Document) (f : Facts) (c : Config) :
    FewerMarks (Subject.issues ⟨d, f, lenient⟩ { c with thresholds := lenient })
      (Subject.issues ⟨d, f, strict⟩ { c with thresholds := strict }) := by
  refine FewerMarks.flatMap fun r hr => ?_
  exact Rule.fewerMarks_of_mem_catalogue h d f r (List.mem_filter.mp hr).1

namespace Analysis

/-- More lenient thresholds find no more and score no lower. For every text that is a
document, every configuration and every two sets of thresholds of which one is as
lenient as the other, the issues found under the lenient set have, in the same order,
rules, severities, categories, titles and places that the issues under the strict set
have, and the score under the lenient set is at least the one under the strict set. -/
theorem ofSource_lenientAs {source file : String} {d : Document}
    (hread : Document.read source file = .ok d) (p : Project) (c : Config)
    {lenient strict : Thresholds} (h : lenient.LenientAs strict) :
    ∃ a b, ofSource source file p { c with thresholds := lenient } = .ok a ∧
      ofSource source file p { c with thresholds := strict } = .ok b ∧
      (a.issues.map fun i => (i.rule, i.severity, i.category, i.title, i.location)).Sublist
        (b.issues.map fun i => (i.rule, i.severity, i.category, i.title, i.location)) ∧
      b.healthScore ≤ a.healthScore := by
  have hfewer := Subject.fewerMarks_issues h d (.ofDocument d) c
  exact ⟨_, _, ofSource_eq_ok hread p _, ofSource_eq_ok hread p _, hfewer, hfewer.healthScore_le⟩

/-- A workflow with a loop over rows that logs once. -/
def sparselyLogged : String :=
  "<Activity><ForEachRow><Sequence><LogMessage /></Sequence></ForEachRow></Activity>"

/-- The workflow under thresholds that ask for no log messages, and under the usual
ones, which ask for more than it has. -/
theorem ofSource_lenientAs_sparselyLogged :
    let lenient : Thresholds := { minLoopLogMessages := 0, minLogMessages := 0 }
    ∃ d a b, Document.read sparselyLogged "Main.xaml" = .ok d ∧ lenient.LenientAs {} ∧
      ofSource sparselyLogged "Main.xaml" {} { thresholds := lenient } = .ok a ∧
      ofSource sparselyLogged "Main.xaml" {} {} = .ok b ∧
      (a.issues.map fun i => (i.rule, i.severity, i.category, i.title, i.location)).Sublist
        (b.issues.map fun i => (i.rule, i.severity, i.category, i.title, i.location)) ∧
      b.healthScore ≤ a.healthScore := by
  intro lenient
  have hlenient : lenient.LenientAs {} :=
    ⟨by decide, by decide, by decide, by decide, by decide⟩
  obtain ⟨d, hread⟩ : ∃ d, Document.read sparselyLogged "Main.xaml" = .ok d :=
    exists_eq_ok (by decide +kernel)
  obtain ⟨a, b, ha, hb, hsublist, hscore⟩ := ofSource_lenientAs hread {} {} hlenient
  exact ⟨d, a, b, hread, hlenient, ha, hb, hsublist, hscore⟩

end Analysis

end WorkflowLint
