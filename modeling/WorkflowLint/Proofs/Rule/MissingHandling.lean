import WorkflowLint.Proofs.Recommendation

/-!
# `WorkflowLint.Proofs.Rule.MissingHandling`: when missing error handling is reported

The table of rules decides on `ERR-001` by three numbers of a document: its error handlers, its
containers (sequences and flowcharts) and its activities. `coverageRow` is that row of the
table.

The rule counts error handlers among all elements of the document, but it counts containers
among the activities, and the root element is no activity. So a container at the root is not
seen. The two numbers of containers differ by the root element alone (`containers_eq`), and
this matters in one case only (`RootAlone`): there is no error handler, the root element is a
container, and it is the only one. Then the row says that the issue is critical, and the rule
reports less or nothing. Everywhere else the rule follows the row:
`missingErrorHandling_coverageRow`.
-/

set_option autoImplicit false

namespace WorkflowLint

open Xml

/-! ### Containers -/

namespace Document

/-- How many sequences and flowcharts a document has, the root element included. -/
def containers (d : Document) : Nat := d.countKind .sequence + d.countKind .flowchart

/-- How many of them are below the root element. -/
def containersBelow (d : Document) : Nat :=
  (d.root.below.filter fun e => e.kind.isContainer).length

/-- Containers are sequences and flowcharts, and no element is both, so their numbers add up. -/
theorem length_filter_isContainer (elements : List Element) :
    (elements.filter fun e => e.kind.isContainer).length
      = (elements.filter fun e => e.kind == .sequence).length
        + (elements.filter fun e => e.kind == .flowchart).length := by
  induction elements with
  | nil => rfl
  | cons e rest ih =>
    -- A sequence is counted on the left and in the first number, a flowchart on the left and in
    -- the second.
    simp only [List.filter_cons]
    cases e.kind with
    | sequence =>
      show (rest.filter _).length + 1 = ((rest.filter _).length + 1) + (rest.filter _).length
      omega
    | flowchart =>
      show (rest.filter _).length + 1 = (rest.filter _).length + ((rest.filter _).length + 1)
      omega
    | _ => exact ih

/-- The containers of a document are those below the root element and perhaps the root element. -/
theorem containers_eq (d : Document) :
    d.containers = d.containersBelow + if d.root.kind.isContainer then 1 else 0 := by
  have hall : d.containers = (d.elements.filter fun e => e.kind.isContainer).length :=
    (length_filter_isContainer d.elements).symm
  rw [hall, elements, Element.withBelow, List.filter_cons, containersBelow]
  split
  · rw [List.length_cons]
  · rw [Nat.add_zero]

/-- There is no error handler, and the root element is a container and the only one. -/
def RootAlone (d : Document) : Prop :=
  d.countKind .tryCatch = 0 ∧ d.root.kind.isContainer = true ∧ d.containers = 1

end Document

namespace Rule

/-! ### The row of the table -/

/-- What the table of rules says of a document with a number of containers: with an error
handler nothing is reported; without one the issue is critical if there is a container, and
else high if there are too many activities. -/
def coverageRow (d : Document) (containers : Nat) (t : Thresholds) : Option Severity :=
  if d.countKind .tryCatch > 0 then none
  else if containers > 0 then some .critical
  else if d.activities.length > t.maxActivitiesWithoutTryCatch then some .high
  else none

/-- The rule counts the containers below the root element, because it counts activities. -/
theorem containerCount_of (d : Document) (t : Thresholds) :
    containerCount (.of d t) = d.containersBelow := by
  show ((d.root.below.map Document.activityOf).filter _).length = _
  rw [List.filter_map, List.length_map]
  rfl

/-- The rule follows the row for the containers that it sees. -/
theorem severities_eq_coverageRow (d : Document) (t : Thresholds) :
    (missingErrorHandling (.of d t)).map (·.severity)
      = (coverageRow d d.containersBelow t).toList := by
  rw [severities_missingErrorHandling, containerCount_of, coverageRow]
  simp only [apply_ite Option.toList, Option.toList_none, Option.toList_some]
  rfl

/-- Without an error handler, some container is below the root element if there is one at all,
unless the root element is alone. -/
theorem containersBelow_pos_iff {d : Document} (hhandlers : d.countKind .tryCatch = 0)
    (halone : ¬ d.RootAlone) : d.containersBelow > 0 ↔ d.containers > 0 := by
  have hcontainers := d.containers_eq
  constructor
  · intro hbelow
    omega
  · intro hsome
    -- Otherwise the root element is the container, and then it is alone.
    by_contra hbelow
    by_cases hroot : d.root.kind.isContainer = true
    · rw [if_pos hroot] at hcontainers
      exact halone ⟨hhandlers, hroot, by omega⟩
    · rw [if_neg hroot] at hcontainers
      omega

/-- Whether the root element is seen matters only where nothing else decides: with an error
handler nothing is reported, and with another container the issue is critical anyway. -/
theorem coverageRow_eq_iff (d : Document) (t : Thresholds) :
    coverageRow d d.containersBelow t = coverageRow d d.containers t ↔ ¬ d.RootAlone := by
  by_cases halone : d.RootAlone
  · refine iff_of_false ?_ (not_not_intro halone)
    obtain ⟨hhandlers, hroot, hone⟩ := halone
    have hbelow : d.containersBelow = 0 := by
      have hcontainers := d.containers_eq
      rw [if_pos hroot] at hcontainers
      omega
    -- The row for one container is critical; for none it never is.
    have hall : coverageRow d d.containers t = some .critical := by
      rw [coverageRow, hhandlers, hone]
      rfl
    rw [hall, coverageRow, hhandlers, hbelow, if_neg (Nat.lt_irrefl 0), if_neg (Nat.lt_irrefl 0)]
    split <;> decide
  · refine iff_of_true ?_ halone
    -- An error handler decides at once.
    by_cases hhandlers : d.countKind .tryCatch > 0
    · rw [coverageRow, coverageRow, if_pos hhandlers, if_pos hhandlers]
    · have hsame := containersBelow_pos_iff (by omega) halone
      simp only [coverageRow, hsame]

/-- `ERR-001` follows its row of the table, but for a container at the root. The rule reports at
most one issue. It has the severity that the row gives for the containers below the root
element. This is the severity that the row gives for all containers of the document, unless
there is no error handler and the root element is the only container. -/
theorem missingErrorHandling_coverageRow (d : Document) (t : Thresholds) :
    Labelled "ERR-001" (missingErrorHandling (.of d t)) ∧
    (missingErrorHandling (.of d t)).map (·.severity)
      = (coverageRow d d.containersBelow t).toList ∧
    ((missingErrorHandling (.of d t)).map (·.severity) = (coverageRow d d.containers t).toList ↔
      ¬ d.RootAlone) := by
  have hinj : ∀ {x y : Option Severity}, x.toList = y.toList ↔ x = y := by
    intro x y
    cases x <;> cases y <;> simp
  refine ⟨labelled_missingErrorHandling _, severities_eq_coverageRow d t, ?_⟩
  rw [severities_eq_coverageRow, hinj]
  exact coverageRow_eq_iff d t

/-- A workflow with a sequence at its root. -/
def rootSequence : String := "<Sequence DisplayName=\"Main\"><Assign /></Sequence>"

/-- The workflow has a sequence and no error handler, so the row says that the issue is
critical; the rule reports nothing. -/
theorem missingErrorHandling_coverageRow_rootSequence :
    ∃ d, Document.read rootSequence "Main.xaml" = .ok d ∧ d.RootAlone ∧
      coverageRow d d.containers {} = some .critical ∧ missingErrorHandling (.of d {}) = [] ∧
      (missingErrorHandling (.of d {})).map (·.severity)
        ≠ (coverageRow d d.containers {}).toList := by
  obtain ⟨d, hread, ⟨hhandlers, hroot, hcontainers⟩, hrow, hissues⟩ :
      ∃ d, Document.read rootSequence "Main.xaml" = .ok d ∧
        (d.countKind .tryCatch = 0 ∧ d.root.kind.isContainer = true ∧ d.containers = 1) ∧
        coverageRow d d.containers {} = some .critical ∧ missingErrorHandling (.of d {}) = [] :=
    exists_ok_of_any (by decide +kernel)
  obtain ⟨-, -, hiff⟩ := missingErrorHandling_coverageRow d {}
  have halone : d.RootAlone := ⟨hhandlers, hroot, hcontainers⟩
  exact ⟨d, hread, halone, hrow, hissues, fun heq => hiff.mp heq halone⟩

end Rule

end WorkflowLint
