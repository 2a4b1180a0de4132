import WorkflowLint.Insight.Score

/-!
# `WorkflowLint.Proofs.Score`: the scores that workflows get

Issues cost points one by one, and what they cost together follows from how many of them
are high and medium (`sumOf_penalty`). So the order of issues does not count
(`points_perm`), and the points of two lists give those of both (`points_append`).

Penalties are multiples of five, so scores are multiples of five from zero to a
hundred: `isScore_healthScore`. There are only 21 of them, and the order of the
floating-point numbers agrees on them with the order of the points
(`ofNat_le_ofNat`). Ratings are bands of what the issues weigh (`ofScore_healthScore`).

Only severities count (`healthScore_le_of_severities`), and taking issues away never
lowers a score: `healthScore_le_of_sublist`. It does not even change if the issues cost
nothing: `healthScore_filter`.
-/

set_option autoImplicit false

namespace WorkflowLint

/-- A score: a multiple of five from zero to a hundred. -/
def IsScore (x : Float) : Prop := ∃ k ≤ 20, x = Float.ofNat (5 * k)

/-- How many issues of a severity there are. -/
def countOf (s : Severity) (issues : List Issue) : Nat :=
  (issues.filter fun i => i.severity == s).length

/-- The points that issues cost, added up issue by issue, follow from two counts. -/
theorem sumOf_penalty (issues : List Issue) :
    sumOf (·.severity.penalty) issues
      = 15 * countOf .high issues + 10 * countOf .medium issues := by
  induction issues with
  | nil => rfl
  | cons i rest ih =>
      rw [sumOf, ih]
      simp only [countOf, List.filter_cons]
      cases i.severity with
      | low => simp [Severity.penalty]
      | medium => simp [Severity.penalty]; omega
      | high => simp [Severity.penalty]; omega
      | critical => simp [Severity.penalty]

/-- How much issues weigh: five points make a unit. -/
def weight (issues : List Issue) : Nat := 3 * countOf .high issues + 2 * countOf .medium issues

/-- The points that issues leave are twenty units less their weight. Subtraction stops at zero, as
the points do. -/
theorem points_eq_weight (issues : List Issue) : points issues = 5 * (20 - weight issues) := by
  have hsum := sumOf_penalty issues
  rw [points, weight]
  omega

/-- The points that issues leave are a multiple of five, and there are at most twenty fives in
them. -/
theorem exists_points (issues : List Issue) : ∃ k ≤ 20, points issues = 5 * k :=
  ⟨20 - weight issues, Nat.sub_le _ _, points_eq_weight issues⟩

/-- The points that issues leave, from the counts of high and medium issues alone: the other two
severities cost nothing. -/
theorem points_eq (issues : List Issue) :
    (points issues : Int)
      = max (0 : Int) (100 - 15 * countOf .high issues - 10 * countOf .medium issues) := by
  have hsum := sumOf_penalty issues
  rw [points]
  omega

/-- The points of two lists of issues together: both losses are taken off the hundred, and the
floor at zero is reached together as it is apart. -/
theorem points_append (front back : List Issue) :
    (points (front ++ back) : Int) = max (0 : Int) (points front + points back - 100) := by
  rw [points, points, points, sumOf_append]
  -- If one list alone costs the hundred, the other leaves at most a hundred, so both sides are
  -- zero; the floor of the one does not hide what the other costs.
  omega

/-- The order of issues does not count, because reordering them changes no count. -/
theorem points_perm {l m : List Issue} (h : l.Perm m) : points l = points m := by
  have hcount : ∀ s, countOf s l = countOf s m := fun s => (h.filter _).length_eq
  rw [points_eq_weight, points_eq_weight, weight, weight, hcount, hcount]

/-- The health score of a workflow is a score: its points are exact as a number with a fraction. -/
theorem isScore_healthScore (issues : List Issue) : IsScore (healthScore issues) := by
  obtain ⟨k, hk, hpoints⟩ := exists_points issues
  exact ⟨k, hk, by rw [healthScore, hpoints]⟩

/-- Scores are ordered as their points are. There are 21 scores, so all pairs are compared. -/
theorem ofNat_le_ofNat : ∀ i ≤ 20, ∀ j ≤ i, Float.ofNat (5 * j) ≤ Float.ofNat (5 * i) := by
  decide +kernel

/-- Scores are rated by their units: sixteen of twenty are excellent, and twelve are good. -/
theorem ofScore_ofNat : ∀ k ≤ 20, Rating.ofScore (Float.ofNat (5 * k))
    = if 16 ≤ k then .excellent else if 12 ≤ k then .good else .needsImprovement := by
  decide +kernel

/-- Issues are rated by their weight: up to four units are excellent, and up to eight are good. -/
theorem ofScore_healthScore (issues : List Issue) :
    Rating.ofScore (healthScore issues)
      = if weight issues ≤ 4 then .excellent
        else if weight issues ≤ 8 then .good
        else .needsImprovement := by
  have hexcellent : 16 ≤ 20 - weight issues ↔ weight issues ≤ 4 := by omega
  have hgood : 12 ≤ 20 - weight issues ↔ weight issues ≤ 8 := by omega
  -- Where the weight exceeds twenty units, the floor is reached, and zero needs improvement too.
  rw [healthScore, points_eq_weight, ofScore_ofNat _ (Nat.sub_le _ _)]
  simp only [hexcellent, hgood]

/-- Fewer members add up to no more: what is left out counts at least zero. -/
theorem sumOf_le_of_sublist {α : Type} (f : α → Nat) {l m : List α} (h : l.Sublist m) :
    sumOf f l ≤ sumOf f m := by
  induction h with
  | slnil => exact Nat.le_refl _
  | cons a _ ih =>
      rw [sumOf]
      omega
  | cons_cons a _ ih =>
      rw [sumOf, sumOf]
      omega

/-- Only severities count: if those of some issues are among those of others, the
others do not score higher. -/
theorem healthScore_le_of_severities {l m : List Issue}
    (h : (l.map (·.severity)).Sublist (m.map (·.severity))) :
    healthScore m ≤ healthScore l := by
  have hsum : sumOf (·.severity.penalty) l ≤ sumOf (·.severity.penalty) m := by
    have hle := sumOf_le_of_sublist Severity.penalty h
    -- A penalty is a matter of the severity, so the sum over issues is one over severities.
    rwa [sumOf_map, sumOf_map] at hle
  obtain ⟨i, hi, hl⟩ := exists_points l
  obtain ⟨j, _, hm⟩ := exists_points m
  have hpoints : points m ≤ points l := by
    rw [points, points]
    omega
  rw [healthScore, healthScore, hl, hm]
  exact ofNat_le_ofNat i hi j (by omega)

/-- Taking issues away does not lower the score, since their severities are taken away with them. -/
theorem healthScore_le_of_sublist {l m : List Issue} (h : l.Sublist m) :
    healthScore m ≤ healthScore l :=
  healthScore_le_of_severities (h.map _)

/-- Leaving out issues that cost nothing keeps the score, whatever the test is that leaves them
out. -/
theorem healthScore_filter {p : Issue → Bool} {issues : List Issue}
    (h : ∀ i ∈ issues, p i = false → i.severity.penalty = 0) :
    healthScore (issues.filter p) = healthScore issues := by
  have hsum : sumOf (·.severity.penalty) (issues.filter p)
      = sumOf (·.severity.penalty) issues := by
    induction issues with
    | nil => rfl
    | cons i rest ih =>
        have hrest := ih fun j hj => h j (List.mem_cons_of_mem _ hj)
        cases hp : p i with
        | true => rw [List.filter_cons_of_pos hp, sumOf, sumOf, hrest]
        | false =>
            -- The issue is left out, and by assumption it cost nothing.
            rw [List.filter_cons_of_neg (by simp [hp]), sumOf, hrest, h i (by simp) hp,
              Nat.zero_add]
  rw [healthScore, healthScore, points, points, hsum]

end WorkflowLint
