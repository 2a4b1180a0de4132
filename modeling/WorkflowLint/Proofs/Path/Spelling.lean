import WorkflowLint.Proofs.Path

/-!
# `WorkflowLint.Proofs.Path.Spelling`: what a full stop in front makes of a path

Paths are compared by their components, and these leave out the fillers of the text: empty segments
and full stops. One full stop is no filler, namely the one that a relative path starts with. It says
nothing about where the path leads, but it counts in comparisons.

`bare` leaves it out as well, so that a path is spelled with the full stop in front or without it
and is nothing more besides its bare components (`components_eq_bare`). Two paths with the same bare
components are therefore the same path, or they are spelled in these two ways
(`components_eq_iff`). In terms of the text, the bare components are the segments that are neither
empty nor a full stop (`bare_eq`).
-/

set_option autoImplicit false

namespace WorkflowLint.Path

/-- The components of a path without a full stop. -/
def bare (path : String) : List Component := (components path).filter (· != .here)

/-- Whether a path is spelled with a full stop in front. -/
def startsHere (path : String) : Bool := (components path).head? == some .here

/-- The segments that are not fillers, wherever they stand. -/
def named (segments : List String) : List String :=
  segments.filter fun s => !s.isEmpty && s != "."

/-- Only the full stop is the component that is left out of the bare ones. -/
theorem componentOf_eq_here_iff {s : String} : componentOf s = .here ↔ s = "." := by
  rw [componentOf]
  split_ifs <;> simp_all

/-- Different segments are different components: full stops have components of their own, and
every other segment keeps its name. -/
theorem componentOf_injective : Function.Injective componentOf := by
  intro s t h
  simp only [componentOf] at h
  split_ifs at h <;> simp_all

/-- Without full stops, the components are those of the segments that are no fillers. Whether a
full stop was a component or a filler makes no difference then. -/
theorem filter_componentsOf (absolute first : Bool) (l : List String) :
    (componentsOf absolute first l).filter (· != .here) = (named l).map componentOf := by
  induction l generalizing first with
  | nil => rfl
  | cons s rest ih =>
    rw [componentsOf, named, List.filter_cons]
    by_cases hempty : s = ""
    · simpa [isFiller, hempty, named] using ih false
    by_cases hdot : s = "."
    · -- A full stop is a filler or the component that is left out.
      subst hdot
      split
      · simpa [named] using ih false
      · simpa [named, componentOf] using ih false
    · have hhere : componentOf s ≠ .here := mt componentOf_eq_here_iff.mp hdot
      simpa [isFiller, hempty, hdot, hhere, named] using ih false

/-- The bare components of a path are the root, if it is absolute, and those of its named
segments. -/
theorem bare_eq (path : String) :
    bare path = rootOf (isAbsolute path) ++ (named (segments path)).map componentOf := by
  rw [bare, components_eq, List.filter_append, filter_componentsOf]
  cases isAbsolute path <;> rfl

/-- Behind the root, or behind another segment, a full stop is always a filler. -/
theorem here_not_mem_componentsOf {absolute first : Bool} (h : absolute = true ∨ first = false)
    (l : List String) : .here ∉ componentsOf absolute first l := by
  induction l generalizing first with
  | nil => exact List.not_mem_nil
  | cons s rest ih =>
    rw [componentsOf]
    split
    case isTrue => exact ih (.inr rfl)
    case isFalse hfiller =>
      rw [List.mem_cons, not_or]
      -- Were the segment a full stop, it would be a filler.
      refine ⟨fun heq => hfiller ?_, ih (.inr rfl)⟩
      rw [componentOf_eq_here_iff.mp heq.symm]
      obtain rfl | rfl := h
      · simp [isFiller]
      · simp [isFiller]

/-- A full stop is the first component of a path or none. -/
theorem here_not_mem_tail (path : String) : .here ∉ (components path).tail := by
  rw [components_eq]
  cases isAbsolute path with
  | true => exact here_not_mem_componentsOf (.inl rfl) _
  | false =>
    cases segments path with
    | nil => exact List.not_mem_nil
    | cons s rest =>
      have hrest : .here ∉ componentsOf false false rest := here_not_mem_componentsOf (.inr rfl) _
      show .here ∉ (componentsOf false true (s :: rest)).tail
      rw [componentsOf]
      split
      · exact fun hmem => hrest (List.mem_of_mem_tail hmem)
      · exact hrest

/-- A path is its bare components, with a full stop in front or without. -/
theorem components_eq_bare (path : String) :
    components path = (if startsHere path then [.here] else []) ++ bare path := by
  have htail := here_not_mem_tail path
  rw [startsHere, bare]
  cases hcomponents : components path with
  | nil => rfl
  | cons c rest =>
    rw [hcomponents] at htail
    -- Behind the first component nothing is left out.
    have hrest : rest.filter (· != .here) = rest := by
      refine List.filter_eq_self.mpr fun x hx => ?_
      simpa using fun heq : x = .here => htail (heq ▸ hx)
    by_cases hc : c = .here
    · simp [hc, hrest]
    · simp [hc, hrest]

/-- Paths with the same bare components are spelled differently or are the same. So there are two
spellings at most that comparing paths tells apart. -/
theorem components_eq_iff {p q : String} :
    components p = components q ↔ startsHere p = startsHere q ∧ bare p = bare q := by
  constructor
  · intro h
    rw [startsHere, startsHere, bare, bare, h]
    exact ⟨rfl, rfl⟩
  · rintro ⟨hstarts, hbare⟩
    rw [components_eq_bare p, hstarts, hbare, ← components_eq_bare q]

end WorkflowLint.Path
