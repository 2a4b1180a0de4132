import WorkflowLint.Proofs.RuleChoice
import WorkflowLint.Report.Json

/-!
# `WorkflowLint.Proofs.Analysis.ScoreLaw`: the score of a workflow and its published counts

The score of an analysis is added up from its issues, one by one. A report for programs
publishes how many issues there are of each severity, counted by another function. The score
law (`HasLawfulScore`) relates the two: the score is a hundred less fifteen points for each
high issue and ten for each medium one, but not below zero, and the rating is a band of the
same counts.

The law is about whole numbers up to a hundred, all of which are floating-point numbers, so
`points` is the score in exact arithmetic; `ofSource_scoreLaw` states the law for all
analyses. The facts on penalties that it rests on are in `WorkflowLint.Proofs.Score`.
-/

set_option autoImplicit false

namespace WorkflowLint

/-- What the summary in a report for programs publishes under a severity. -/
def Report.published? (stamp : Report.Stamp) (a : Analysis) (s : Severity) : Option Json :=
  (((entryJson stamp a).member? "metadata").bind (·.member? "summary")).bind
    (·.member? s.smallLabel)

/-- The number of issues of a severity is the one that is published: the report counts the same
issues, whatever the time stamp. -/
theorem Report.published?_eq (stamp : Report.Stamp) (a : Analysis) (s : Severity) :
    published? stamp a s = some (.ofNat (a.count s)) := by
  cases s <;> rfl

namespace Analysis

/-- The score and the rating of an analysis follow from its published numbers `h` of high and
`m` of medium issues. -/
structure HasLawfulScore (a : Analysis) (h m : Nat) : Prop where
  high : ∀ stamp, Report.published? stamp a .high = some (.ofNat h)
  medium : ∀ stamp, Report.published? stamp a .medium = some (.ofNat m)
  score : a.healthScore = Float.ofInt (max 0 (100 - 15 * h - 10 * m))
  range : 0 ≤ a.healthScore ∧ a.healthScore ≤ 100
  multiple : ∃ k ≤ 20, a.healthScore = Float.ofNat (5 * k)
  /-- The score does not depend on the order of the issues. -/
  reordered : ∀ issues : List Issue, issues.Perm a.issues →
    WorkflowLint.healthScore issues = a.healthScore
  excellent : a.rating = .excellent ↔ 3 * h + 2 * m ≤ 4
  good : a.rating = .good ↔ 4 < 3 * h + 2 * m ∧ 3 * h + 2 * m ≤ 8
  needsImprovement : a.rating = .needsImprovement ↔ 8 < 3 * h + 2 * m

/-- Scores lie between zero and a hundred, as multiples of five with at most twenty fives. -/
theorem healthScore_mem_range (issues : List Issue) :
    0 ≤ WorkflowLint.healthScore issues ∧ WorkflowLint.healthScore issues ≤ 100 := by
  obtain ⟨k, hk, hscore⟩ := isScore_healthScore issues
  rw [hscore]
  exact ⟨ofNat_le_ofNat k hk 0 (Nat.zero_le k), ofNat_le_ofNat 20 (Nat.le_refl 20) k hk⟩

/-- An analysis whose score is that of its issues obeys the score law. -/
theorem hasLawfulScore_of_eq {a : Analysis}
    (hscore : a.healthScore = WorkflowLint.healthScore a.issues) :
    a.HasLawfulScore (a.count .high) (a.count .medium) := by
  -- The rating is asked of the score, and the score knows the weight only.
  have hrating : a.rating
      = if weight a.issues ≤ 4 then .excellent
        else if weight a.issues ≤ 8 then .good
        else .needsImprovement := by
    rw [rating, hscore, ofScore_healthScore]
  -- The report counts the issues of a severity as the weight does.
  have hweight : weight a.issues = 3 * a.count .high + 2 * a.count .medium := rfl
  rw [hweight] at hrating
  exact
    { high := fun stamp => Report.published?_eq stamp a .high
      medium := fun stamp => Report.published?_eq stamp a .medium
      score := by
        rw [hscore]
        exact congrArg Float.ofInt (points_eq a.issues)
      range := hscore ▸ healthScore_mem_range a.issues
      multiple := hscore ▸ isScore_healthScore a.issues
      reordered := fun issues hperm => by
        rw [hscore, WorkflowLint.healthScore, WorkflowLint.healthScore, points_perm hperm]
      excellent := by rw [hrating]; grind
      good := by rw [hrating]; grind
      needsImprovement := by rw [hrating]; grind }

/-- The score law. For every text that is a document and every configuration, the score and
the rating of the analysis follow from the numbers of high and medium issues that a report
for programs publishes. For any two lists of issues, the score of both together is that of
the one and of the other less a hundred, but not below zero. -/
theorem ofSource_scoreLaw {source file : String} {d : Document}
    (hread : Document.read source file = .ok d) (p : Project) (c : Config) :
    (∃ a, ofSource source file p c = .ok a ∧
      a.HasLawfulScore (a.count .high) (a.count .medium)) ∧
    ∀ front back : List Issue,
      WorkflowLint.healthScore front = Float.ofNat (points front) ∧
      WorkflowLint.healthScore back = Float.ofNat (points back) ∧
      WorkflowLint.healthScore (front ++ back)
        = Float.ofInt (max 0 (points front + points back - 100)) := by
  refine ⟨⟨ofDocument d p c, ofSource_eq_ok hread p c, hasLawfulScore_of_eq rfl⟩, ?_⟩
  intro front back
  exact ⟨rfl, rfl, congrArg Float.ofInt (points_append front back)⟩

/-- A workflow with an error handler that does nothing. -/
def idleHandler : String :=
  "<Activity><TryCatch><TryCatch.Catches><Catch /></TryCatch.Catches></TryCatch></Activity>"

/-- The workflow has one high and two medium issues, so its score is 65, which is good. -/
theorem ofSource_scoreLaw_idleHandler :
    ∃ d a, Document.read idleHandler "Main.xaml" = .ok d ∧
      ofSource idleHandler "Main.xaml" {} {} = .ok a ∧
      a.count .high = 1 ∧ a.count .medium = 2 ∧ a.healthScore = 65 ∧ a.rating = .good := by
  obtain ⟨d, hread, hhigh, hmedium⟩ :
      ∃ d, Document.read idleHandler "Main.xaml" = .ok d ∧
        (ofDocument d {} {}).count .high = 1 ∧ (ofDocument d {} {}).count .medium = 2 :=
    exists_ok_of_any (by decide +kernel)
  obtain ⟨⟨a, ha, hlaw⟩, -⟩ := ofSource_scoreLaw hread {} {}
  -- The analysis is the one whose issues were counted.
  obtain rfl : ofDocument d {} {} = a := by
    rw [ofSource_eq_ok hread] at ha
    exact Except.ok.inj ha
  rw [hhigh, hmedium] at hlaw
  exact ⟨d, _, hread, ha, hhigh, hmedium, hlaw.score, hlaw.good.mpr (by decide)⟩

end Analysis

end WorkflowLint
