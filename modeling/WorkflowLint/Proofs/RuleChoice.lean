import Mathlib.Data.List.Nodup
import WorkflowLint.Analysis
import WorkflowLint.Proofs.Score
import WorkflowLint.Proofs.Success

/-!
# `WorkflowLint.Proofs.RuleChoice`: leaving rules out is leaving issues out

A configuration chooses rules, and the rules that are chosen run. Because every
rule writes the identifier that the catalogue lists it under on each of its issues
(`labelled_of_mem_catalogue`), choosing rules before they run has the same effect
as filtering the issues of all rules by their identifiers: `issues_eq_filter`.
Nothing else in an analysis looks at the choice of rules, except that the score is
the score of the issues that are left (`ofDocument_eq_restrict`).

Two consequences are part of `ofSource_ruleChoice`. Issues come in the order of
the catalogue, and naming more rules to leave out takes issues away and does not
lower the score.
-/

set_option autoImplicit false

namespace WorkflowLint

/-! ### Identifiers on issues -/

/-- All issues of a list carry an identifier. -/
def Labelled (id : String) (issues : List Issue) : Prop := ∀ i ∈ issues, i.rule = id

namespace Labelled

variable {α : Type} {id : String}

/-- No issues carry every identifier, for there is none to look at. -/
theorem nil : Labelled id [] := by
  intro i hi
  cases hi

/-- A single issue carries the identifier that is written on it. -/
theorem singleton {i : Issue} (h : i.rule = id) : Labelled id [i] := by
  intro j hj
  rw [List.mem_singleton.mp hj]
  exact h

/-- An issue for every member of a list: the identifier is the same whatever the member is. -/
theorem map {f : α → Issue} (h : ∀ a, (f a).rule = id) (l : List α) :
    Labelled id (l.map f) := by
  intro i hi
  obtain ⟨a, _, rfl⟩ := List.mem_map.mp hi
  exact h a

/-- At most one issue for every member of a list. -/
theorem filterMap {f : α → Option Issue} (h : ∀ a, ∀ i ∈ f a, i.rule = id) (l : List α) :
    Labelled id (l.filterMap f) := by
  intro i hi
  obtain ⟨a, _, hi⟩ := List.mem_filterMap.mp hi
  exact h a i hi

/-- Any number of issues for every member of a list. -/
theorem flatMap {f : α → List Issue} (h : ∀ a, Labelled id (f a)) (l : List α) :
    Labelled id (l.flatMap f) := by
  intro i hi
  obtain ⟨a, _, hi⟩ := List.mem_flatMap.mp hi
  exact h a i hi

end Labelled

namespace Rule

/-- The rule reports one of two issues or none, and both carry its identifier. -/
theorem labelled_missingErrorHandling (s : Subject) :
    Labelled "ERR-001" (missingErrorHandling s) := by
  unfold missingErrorHandling
  simp only
  split
  · exact .nil
  split
  · exact .singleton rfl
  split
  · exact .singleton rfl
  · exact .nil

/-- The rule reports one issue about the whole document, or none. -/
theorem labelled_sparseErrorHandling (s : Subject) :
    Labelled "ERR-002" (sparseErrorHandling s) := by
  unfold sparseErrorHandling
  simp only
  split
  · exact .nil
  · exact .singleton rfl

/-- So does this one, which asks whether there is a delay anywhere. -/
theorem labelled_noDelays (s : Subject) : Labelled "TIME-001" (noDelays s) := by
  unfold noDelays
  split
  · exact .nil
  · exact .singleton rfl

/-- No log message and too few of them lead to two different issues of one rule. -/
theorem labelled_logVolume (s : Subject) : Labelled "LOG-001" (logVolume s) := by
  unfold logVolume
  simp only
  split
  · exact .nil
  split
  · exact .singleton rfl
  split
  · exact .singleton rfl
  · exact .nil

/-- One issue if the document is nested too deeply, and none otherwise. -/
theorem labelled_nestingDepth (s : Subject) : Labelled "MAINT-001" (nestingDepth s) := by
  unfold nestingDepth
  simp only
  split
  · exact .nil
  · exact .singleton rfl

/-- One issue for each loop with a scope below it, about the first such scope. -/
theorem labelled_scopeInLoop (s : Subject) : Labelled "XL-001" (scopeInLoop s) := by
  refine .filterMap ?_ _
  intro loop i hi
  obtain ⟨first, _, rfl⟩ := Option.map_eq_some_iff.mp hi
  rfl

/-- One issue for each loop with too few log messages below it. -/
theorem labelled_loopLogging (s : Subject) : Labelled "LOOP-002" (loopLogging s) := by
  refine .filterMap ?_ _
  intro loop i hi
  simp only at hi
  split at hi
  · cases hi
  · cases hi
    rfl

/-- One issue for each click that is followed too soon. The rule gives up in several places, and
each of them is a case here. -/
theorem labelled_postClickDelay (s : Subject) : Labelled "WEB-003" (postClickDelay s) := by
  refine .filterMap ?_ _
  -- There are four ways to report nothing about a click.
  intro click i hi
  simp only at hi
  split at hi
  · cases hi
  split at hi
  · cases hi
  split at hi
  · cases hi
  split at hi
  · cases hi
  · cases hi
    rfl

/-- One issue for each target whose address has too long a query. -/
theorem labelled_urlQueryLength (s : Subject) : Labelled "SEL-001" (urlQueryLength s) := by
  refine .filterMap ?_ _
  intro target i hi
  split at hi
  · cases hi
  simp only at hi
  split at hi
  · cases hi
    rfl
  · cases hi

/-- Any number of issues for each workbook path, one for each misspelling in it. -/
theorem labelled_knownMisspellings (s : Subject) :
    Labelled "PATH-002" (knownMisspellings s) := by
  refine .flatMap (fun path => .map ?_ _) _
  intro m
  rfl

/-- Handlers, their blocks and the log messages below these are gone through, and each issue comes
from the innermost list. -/
theorem labelled_catchLogLevel (s : Subject) : Labelled "LOG-002" (catchLogLevel s) := by
  refine .flatMap (fun handler => .flatMap (fun block => .map ?_ _) _) _
  intro log
  rfl

/-- One issue for each empty block of a handler, handler by handler. -/
theorem labelled_emptyCatch (s : Subject) : Labelled "LOGIC-002" (emptyCatch s) := by
  refine .flatMap (fun handler => .map ?_ _) _
  intro block
  rfl

/-- Every rule of the catalogue writes its own identifier on all its issues. The rules that are
not listed above report one issue for each element, path or variable of a list. -/
theorem labelled_of_mem_catalogue (s : Subject) :
    ∀ r ∈ catalogue, Labelled r.id (r.issues s) := by
  simp only [catalogue, List.forall_mem_cons, List.not_mem_nil, false_implies, implies_true,
    and_true]
  exact ⟨labelled_missingErrorHandling s, labelled_sparseErrorHandling s, labelled_scopeInLoop s,
    .map (fun _ => by rfl) _, .map (fun _ => by rfl) _, .map (fun _ => by rfl) _,
    labelled_postClickDelay s, .map (fun _ => by rfl) _, labelled_loopLogging s,
    labelled_urlQueryLength s, .map (fun _ => by rfl) _, labelled_noDelays s, labelled_logVolume s,
    .map (fun _ => by rfl) _, labelled_knownMisspellings s, labelled_nestingDepth s,
    .map (fun _ => by rfl) _, labelled_catchLogLevel s, .map (fun _ => by rfl) _,
    labelled_emptyCatch s, .map (fun _ => by rfl) _, .map (fun _ => by rfl) _,
    .map (fun _ => by rfl) _⟩

end Rule

/-! ### Choosing and filtering -/

/-- The configuration with all rules chosen and everything else unchanged. -/
def Config.allRules (c : Config) : Config := { c with rules := {} }

/-- The issues of the rules that are chosen are the issues, of all rules, whose identifiers are
chosen. The induction goes along the rules; each is kept or left out together with its issues. -/
theorem flatMap_issues_filter (s : Subject) (p : String → Bool) {rules : List Rule}
    (h : ∀ r ∈ rules, Labelled r.id (r.issues s)) :
    (rules.filter fun r => p r.id).flatMap (·.issues s)
      = (rules.flatMap (·.issues s)).filter fun i => p i.rule := by
  induction rules with
  | nil => rfl
  | cons r rest ih =>
      have hrest := ih fun q hq => h q (List.mem_cons_of_mem _ hq)
      have hown : ∀ i ∈ r.issues s, p i.rule = p r.id := fun i hi => by
        rw [h r (by simp) i hi]
      rw [List.flatMap_cons, List.filter_append, List.filter_cons, ← hrest]
      -- Either the rule and all its issues stay, or none of them does.
      by_cases hp : p r.id = true
      · rw [if_pos hp, List.flatMap_cons,
          List.filter_eq_self.mpr fun i hi => (hown i hi).trans hp]
      · have hnone : ((r.issues s).filter fun i => p i.rule) = [] :=
          List.filter_eq_nil_iff.mpr fun i hi hi' => hp ((hown i hi).symm.trans hi')
        rw [if_neg hp, hnone, List.nil_append]

/-- With all rules chosen, the issues are those of the whole catalogue. -/
theorem Subject.issues_allRules (s : Subject) (c : Config) :
    s.issues c.allRules = Rule.catalogue.flatMap (·.issues s) := by
  have hfilter : (Rule.catalogue.filter fun r => c.allRules.enables r.id) = Rule.catalogue :=
    List.filter_eq_self.mpr fun _ _ => rfl
  rw [Subject.issues, hfilter]

/-- The issues under a configuration are the issues of all rules, filtered by the
rules that the configuration chooses. -/
theorem Subject.issues_eq_filter (s : Subject) (c : Config) :
    s.issues c = (s.issues c.allRules).filter fun i => c.enables i.rule := by
  rw [s.issues_allRules, Subject.issues,
    flatMap_issues_filter s c.enables (Rule.labelled_of_mem_catalogue s)]

namespace Analysis

/-- An analysis with only those issues whose rules a configuration chooses, and
with the score that they leave. -/
def restrict (a : Analysis) (c : Config) : Analysis :=
  let issues := a.issues.filter fun i => c.enables i.rule
  { a with issues := issues, healthScore := WorkflowLint.healthScore issues }

/-- Choosing rules restricts the analysis with all rules and does nothing else: the facts of the
document do not depend on the choice. -/
theorem ofDocument_eq_restrict (d : Document) (p : Project) (c : Config) :
    ofDocument d p c = (ofDocument d p c.allRules).restrict c := by
  have hissues := Subject.issues_eq_filter ⟨d, .ofDocument d, c.thresholds⟩ c
  rw [ofDocument, hissues]
  rfl

end Analysis

/-! ### The order of issues -/

namespace Rule

/-- The identifiers of all rules, in their order. -/
def ids : List String := catalogue.map (·.id)

/-- No two rules have the same identifier, so an identifier on an issue tells which rule reported
it. -/
theorem nodup_ids : ids.Nodup := by
  decide

/-- The rules stand in the order of their identifiers' positions, since identifiers are distinct. -/
theorem pairwise_catalogue :
    catalogue.Pairwise fun q r => ids.idxOf q.id < ids.idxOf r.id := by
  -- In a list without repetition every entry has its own position.
  have hids : ids.Pairwise fun x y => ids.idxOf x < ids.idxOf y := by
    rw [List.pairwise_iff_getElem]
    intro i j hi hj hij
    rw [nodup_ids.idxOf_getElem i hi, nodup_ids.idxOf_getElem j hj]
    exact hij
  rwa [ids, List.pairwise_map] at hids

end Rule

/-- The issues of all rules come in the order of the catalogue. Filtering keeps an order, so the
same holds under every configuration. -/
theorem Subject.pairwise_issues (s : Subject) (c : Config) :
    (s.issues c).Pairwise fun i j => Rule.ids.idxOf i.rule ≤ Rule.ids.idxOf j.rule := by
  have hown := Rule.labelled_of_mem_catalogue s
  have hall : (Rule.catalogue.flatMap (·.issues s)).Pairwise
      fun i j => Rule.ids.idxOf i.rule ≤ Rule.ids.idxOf j.rule := by
    refine List.pairwise_flatMap.mpr ⟨?_, ?_⟩
    · -- Within one rule the identifier is the same.
      intro r hr
      refine List.pairwise_of_forall_mem_list fun i hi j hj => ?_
      have hrule : i.rule = j.rule := (hown r hr i hi).trans (hown r hr j hj).symm
      exact Nat.le_of_eq (congrArg Rule.ids.idxOf hrule)
    -- From an earlier rule to a later one the position grows.
    · refine Rule.pairwise_catalogue.imp_of_mem fun hq hr hlt i hi j hj => ?_
      rw [hown _ hq i hi, hown _ hr j hj]
      exact Nat.le_of_lt hlt
  rw [s.issues_eq_filter, s.issues_allRules]
  exact hall.sublist List.filter_sublist

/-- Among the issues under a configuration, those with the identifier of a rule that runs are
the issues of this rule. -/
theorem Subject.mem_issues_iff (s : Subject) {c : Config} {r : Rule} (hr : r ∈ Rule.catalogue)
    (hruns : c.enables r.id = true) (i : Issue) :
    i ∈ s.issues c ∧ i.rule = r.id ↔ i ∈ r.issues s := by
  constructor
  · rintro ⟨hi, hrule⟩
    obtain ⟨q, hq, hi⟩ := List.mem_flatMap.mp hi
    have hq := (List.mem_filter.mp hq).1
    -- Two rules with one identifier are the same.
    have hid : q.id = r.id := (Rule.labelled_of_mem_catalogue s q hq i hi).symm.trans hrule
    rwa [List.inj_on_of_nodup_map Rule.nodup_ids hq hr hid] at hi
  · intro hi
    exact ⟨List.mem_flatMap.mpr ⟨r, List.mem_filter.mpr ⟨hr, hruns⟩, hi⟩,
      Rule.labelled_of_mem_catalogue s r hr i hi⟩

/-- Every issue names a rule of the catalogue, and the rule is the one that made it. -/
theorem Subject.rule_mem_ids (s : Subject) (c : Config) : ∀ i ∈ s.issues c, i.rule ∈ Rule.ids := by
  intro i hi
  obtain ⟨r, hr, hi⟩ := List.mem_flatMap.mp hi
  have hmem := (List.mem_filter.mp hr).1
  rw [Rule.labelled_of_mem_catalogue s r hmem i hi]
  exact List.mem_map_of_mem hmem

/-! ### Leaving out more -/

/-- The configuration with another list of rules to leave out. -/
def Config.withDisabled (c : Config) (disable : List String) : Config :=
  { c with rules := { c.rules with disable := disable } }

/-- A rule that runs although more is left out runs when less is. What is enabled by name plays no
part in this. -/
theorem Config.enables_of_withDisabled {c : Config} {disable : List String}
    (h : c.rules.disable ⊆ disable) {id : String}
    (hid : (c.withDisabled disable).enables id = true) : c.enables id = true := by
  unfold enables withDisabled at hid
  unfold enables
  simp only [Bool.and_eq_true, Bool.not_eq_true', List.any_eq_false] at hid ⊢
  exact ⟨fun p hp => hid.1 p (h hp), hid.2⟩

/-- Leaving out more takes issues away and keeps the order of those that are left. -/
theorem Subject.sublist_issues_withDisabled (s : Subject) {c : Config} {disable : List String}
    (h : c.rules.disable ⊆ disable) :
    (s.issues (c.withDisabled disable)).Sublist (s.issues c) := by
  have htwice : s.issues (c.withDisabled disable)
      = (s.issues c).filter fun i => (c.withDisabled disable).enables i.rule := by
    rw [s.issues_eq_filter (c.withDisabled disable), s.issues_eq_filter c, List.filter_filter]
    -- Both configurations choose from the same issues of all rules.
    refine List.filter_congr fun i _ => ?_
    cases hi : (c.withDisabled disable).enables i.rule with
    | false => rfl
    | true => rw [Config.enables_of_withDisabled h hi, Bool.and_self]
  rw [htwice]
  exact List.filter_sublist

namespace Analysis

/-- The analysis of a text that is a document is that of the document. -/
theorem ofSource_eq_ok {source file : String} {d : Document}
    (hread : Document.read source file = .ok d) (p : Project) (c : Config) :
    ofSource source file p c = .ok (ofDocument d p c) := by
  rw [ofSource, hread]
  rfl

/-- Choosing rules is filtering issues. For every text that is a document, the
analysis differs from the one with all rules in two fields only: its issues are
those whose rules are chosen, in the same order, and its score is the score of
these. The issues come in the order of the catalogue. Naming more rules to leave
out takes issues away and does not lower the score. -/
theorem ofSource_ruleChoice (source file : String) (p : Project) (c : Config) (d : Document)
    (hread : Document.read source file = .ok d) :
    ∃ a all, ofSource source file p c = .ok a ∧ ofSource source file p c.allRules = .ok all ∧
      a = { all with
        issues := all.issues.filter fun i => c.enables i.rule
        healthScore :=
          WorkflowLint.healthScore (all.issues.filter fun i => c.enables i.rule) } ∧
      (∀ i ∈ a.issues, i.rule ∈ Rule.ids) ∧
      (a.issues.Pairwise fun i j => Rule.ids.idxOf i.rule ≤ Rule.ids.idxOf j.rule) ∧
      ∀ disable, c.rules.disable ⊆ disable →
        ∃ fewer, ofSource source file p (c.withDisabled disable) = .ok fewer ∧
          fewer.issues.Sublist a.issues ∧ a.healthScore ≤ fewer.healthScore := by
  refine ⟨ofDocument d p c, ofDocument d p c.allRules, ofSource_eq_ok hread p c,
    ofSource_eq_ok hread p c.allRules, ofDocument_eq_restrict d p c, ?_, ?_, ?_⟩
  · exact Subject.rule_mem_ids _ c
  · exact Subject.pairwise_issues _ c
  -- The two analyses have the same subject, so only the lists of issues are compared.
  · intro disable h
    have hsublist := Subject.sublist_issues_withDisabled ⟨d, .ofDocument d, c.thresholds⟩ h
    exact ⟨ofDocument d p (c.withDisabled disable), ofSource_eq_ok hread p _, hsublist,
      healthScore_le_of_sublist hsublist⟩

/-- A workflow with a loop over rows that is neither protected nor logged. -/
def bareLoop : String := "<Activity><Sequence><ForEachRow /></Sequence></Activity>"

/-- The workflow under a configuration that leaves out the rules on errors, and under one that
leaves out `TIME-001` as well: fewer issues, and no lower score. -/
theorem ofSource_ruleChoice_bareLoop :
    let c : Config := { rules := { disable := ["ERR-*"] } }
    ∃ d a all fewer, Document.read bareLoop "Main.xaml" = .ok d ∧
      ofSource bareLoop "Main.xaml" {} c = .ok a ∧
      ofSource bareLoop "Main.xaml" {} c.allRules = .ok all ∧
      a = all.restrict c ∧
      ofSource bareLoop "Main.xaml" {} (c.withDisabled ["ERR-*", "TIME-001"]) = .ok fewer ∧
      fewer.issues.Sublist a.issues ∧ a.healthScore ≤ fewer.healthScore := by
  intro c
  obtain ⟨d, hread⟩ : ∃ d, Document.read bareLoop "Main.xaml" = .ok d :=
    exists_eq_ok (by decide +kernel)
  obtain ⟨a, all, ha, hall, heq, _, _, hmore⟩ :=
    ofSource_ruleChoice bareLoop "Main.xaml" {} c d hread
  obtain ⟨fewer, hfewer, hsublist, hscore⟩ := hmore ["ERR-*", "TIME-001"] (by simp [c])
  exact ⟨d, a, all, fewer, hread, ha, hall, heq, hfewer, hsublist, hscore⟩

end Analysis

end WorkflowLint
