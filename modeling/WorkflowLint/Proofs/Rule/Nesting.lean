import WorkflowLint.Proofs.RuleChoice
import WorkflowLint.Proofs.Xml.Ancestor

/-!
# `WorkflowLint.Proofs.Rule.Nesting`: how deep a workflow is nested

`MAINT-001` compares the depth of a document with a limit. The depth is computed from the root
element down, level by level. What it means for one activity is seen from below: the activity
has elements around it, and the way up to the root element takes one step for each of them.

`nestingDepth_ancestors` says that the two agree. The depth is the greatest number of steps, and
the rule reports a document exactly when some element has more elements around it than the limit
allows. The activities of a document are the elements below its root element, so a document has
depth zero exactly when it has no activities, and it is never deeper than they are many.
-/

set_option autoImplicit false

namespace WorkflowLint

open Xml

namespace Document

/-- A document without levels below the root element has no activities. -/
theorem depth_eq_zero_iff (d : Document) : d.depth = 0 ↔ d.activities = [] := by
  -- Both are about the content of the root element, as the root is no activity and no level.
  show heightOf d.root.content = 0 ↔ (elementsOf d.root.content).map activityOf = []
  rw [heightOf_eq_zero_iff, List.map_eq_nil_iff]

/-- Every level has an activity, so a document is at most as deep as it has activities. -/
theorem depth_le_length_activities (d : Document) : d.depth ≤ d.activities.length := by
  show heightOf d.root.content ≤ ((elementsOf d.root.content).map activityOf).length
  rw [List.length_map]
  exact heightOf_le_length d.root.content

/-- The depth goes beyond a limit when some way up does. -/
theorem lt_depth_iff (d : Document) (limit : Nat) :
    limit < d.depth ↔ ∃ p ∈ d.root.places, limit < (p.ancestors d.root).length := by
  -- The greatest number is taken by some way up, and no way up has more.
  obtain ⟨hmem, hle⟩ := List.max?_eq_some_iff.mp d.root.max?_length_ancestors
  constructor
  · intro hlt
    obtain ⟨p, hp, hdepth⟩ := List.mem_map.mp hmem
    refine ⟨p, hp, ?_⟩
    rw [hdepth]
    exact hlt
  · rintro ⟨p, hp, hlt⟩
    exact Nat.lt_of_lt_of_le hlt (hle _ (List.mem_map_of_mem hp))

end Document

namespace Rule

/-- The rule makes one report at most, whatever the number of elements that are too deep: it is
about the document. -/
theorem length_nestingDepth (s : Subject) :
    (nestingDepth s).length
      = if s.thresholds.maxNestingDepth < s.document.depth then 1 else 0 := by
  rw [nestingDepth]
  by_cases h : s.document.depth ≤ s.thresholds.maxNestingDepth
  · rw [if_pos h, if_neg (Nat.not_lt.mpr h)]
    rfl
  · rw [if_neg h, if_pos (Nat.not_le.mp h)]
    rfl

/-- The depth of a document is the greatest number of steps that the way up from one of its
elements takes, going from parent to parent until there is none. The way comes through the
elements that have the first one below them, each once.

So the depth is zero exactly when there are no activities, and it is at most their number.
`MAINT-001` makes at most one report, and it makes one exactly when some element has more
elements around it than the limit allows. -/
theorem nestingDepth_ancestors (d : Document) (t : Thresholds) :
    (d.root.places.map fun p => (p.ancestors d.root).length).max? = some d.depth ∧
    (∀ p ∈ d.root.places, (p.ancestors d.root).Nodup ∧
      ∀ q, q ∈ p.ancestors d.root ↔ q ∈ d.root.places ∧ p ∈ q.below) ∧
    (d.depth = 0 ↔ d.activities = []) ∧ d.depth ≤ d.activities.length ∧
    Labelled "MAINT-001" (nestingDepth (.of d t)) ∧ (nestingDepth (.of d t)).length ≤ 1 ∧
    (nestingDepth (.of d t) ≠ [] ↔
      ∃ p ∈ d.root.places, t.maxNestingDepth < (p.ancestors d.root).length) := by
  refine ⟨d.root.max?_length_ancestors, fun p hp => ⟨Place.nodup_ancestors hp,
    fun q => Place.mem_ancestors_iff hp⟩, d.depth_eq_zero_iff, d.depth_le_length_activities,
    labelled_nestingDepth _, ?_, ?_⟩
  · rw [length_nestingDepth]
    split <;> omega
  · rw [← d.lt_depth_iff, ne_eq, ← List.length_eq_zero_iff, length_nestingDepth, ite_eq_right_iff]
    simp [Subject.of]

/-- A workflow with two branches, the first of which goes deeper than the other. -/
def unevenBranches : String :=
  "<Activity>Main<Sequence><!-- --><Assign/></Sequence><Delay/></Activity>"

/-- The assignment has two elements around it, and no element has more. -/
theorem nestingDepth_ancestors_unevenBranches :
    ∃ d, Document.read unevenBranches "Main.xaml" = .ok d ∧
      (nestingDepth (.of d { maxNestingDepth := 1 })).length = 1 ∧
      nestingDepth (.of d { maxNestingDepth := 2 }) = [] ∧
      ∃ p ∈ d.root.places, (p.ancestors d.root).length = 2 ∧ (p.ancestors d.root).Nodup := by
  obtain ⟨d, hread, hdepth, hone, htwo⟩ :
      ∃ d, Document.read unevenBranches "Main.xaml" = .ok d ∧ d.depth = 2 ∧
        (nestingDepth (.of d { maxNestingDepth := 1 })).length = 1 ∧
        nestingDepth (.of d { maxNestingDepth := 2 }) = [] :=
    exists_ok_of_any (by decide +kernel)
  obtain ⟨hmax, hway, -⟩ := nestingDepth_ancestors d { maxNestingDepth := 1 }
  -- The place with the longest way up is that of the assignment.
  obtain ⟨p, hp, hsteps⟩ := List.mem_map.mp (List.max?_mem hmax)
  exact ⟨d, hread, hone, htwo, p, hp, hsteps.trans hdepth, (hway p hp).1⟩

end Rule

end WorkflowLint
