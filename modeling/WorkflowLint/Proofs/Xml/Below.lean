import WorkflowLint.Document

/-!
# `WorkflowLint.Proofs.Xml.Below`: children and what is below them

The elements below an element are listed by one walk through its content. They are also
its children, each followed by what is below that child (`below_eq_flatMap`); texts and
asides contribute nothing. So the questions that are asked about children have an answer
in terms of what is below: an element has no children exactly when nothing is below it,
and it is hollow exactly when at most one element is (`isHollow_iff`).
-/

set_option autoImplicit false

namespace WorkflowLint.Xml

/-- The elements of a content are its elements, each followed by those below it. -/
theorem elementsOf_eq_flatMap (content : List Node) :
    elementsOf content = (content.filterMap Node.element?).flatMap Element.withBelow := by
  induction content with
  | nil => rfl
  | cons n rest ih =>
    rw [elementsOf_cons, ih]
    cases n with
    | element head content => rfl
    | text s => rfl
    | aside => rfl

namespace Element

/-- The elements below are the children, each followed by those below it. -/
theorem below_eq_flatMap (e : Element) : e.below = e.children.flatMap withBelow :=
  elementsOf_eq_flatMap e.content

/-- Nothing is below an element without children, and something below one that has some. -/
theorem below_eq_nil_iff (e : Element) : e.below = [] ↔ e.children = [] := by
  rw [below_eq_flatMap]
  cases e.children with
  | nil => simp
  | cons c rest => simp [withBelow]

/-- An element is hollow when at most one element is below it, and only then. The content
of an only child counts as well, so the child has to be without children. -/
theorem isHollow_iff (e : Element) : e.isHollow = true ↔ e.below.length ≤ 1 := by
  rw [isHollow, below_eq_flatMap]
  -- None, one or several children: only one needs a look at what is below it.
  match e.children with
  | [] => simp
  | [only] =>
    rw [List.isEmpty_iff, ← below_eq_nil_iff, List.flatMap_singleton, withBelow,
      List.length_cons, ← List.length_eq_zero_iff]
    omega
  | first :: second :: rest =>
    simp only [List.flatMap_cons, withBelow, List.length_append, List.length_cons]
    constructor
    · intro h
      cases h
    · omega

/-- One element is all that is below another exactly if it is the only child and has no children
itself. -/
theorem below_eq_singleton_iff {e x : Element} :
    e.below = [x] ↔ e.children = [x] ∧ x.children = [] := by
  rw [below_eq_flatMap]
  match e.children with
  | [] => simp
  | [only] =>
    -- An only child comes first in what is below, and its own children come behind it.
    rw [List.flatMap_singleton, withBelow, List.cons.injEq, List.cons.injEq, below_eq_nil_iff]
    constructor
    · rintro ⟨rfl, hchildless⟩
      exact ⟨⟨rfl, rfl⟩, hchildless⟩
    · rintro ⟨⟨rfl, -⟩, hchildless⟩
      exact ⟨rfl, hchildless⟩
  | first :: second :: rest => simp [withBelow]

/-- What is below the first child with a name is below the element. -/
theorem mem_below_of_mem_child? {e part x : Element} {name : String}
    (hpart : part ∈ e.child? name) (hx : x ∈ part.below) : x ∈ e.below := by
  rw [below_eq_flatMap, List.mem_flatMap]
  exact ⟨part, List.mem_of_find?_eq_some hpart, List.mem_cons_of_mem part hx⟩

/-- An element below a hollow one is the only one there. -/
theorem below_eq_singleton {e x : Element} (h : e.isHollow = true) (hx : x ∈ e.below) :
    e.below = [x] := by
  have hlength := (isHollow_iff e).mp h
  -- What is below has one element at most, and this one is in it.
  match hbelow : e.below with
  | [] => rw [hbelow] at hx; cases hx
  | [y] => rw [hbelow] at hx; rw [List.mem_singleton.mp hx]
  | y :: z :: rest => rw [hbelow] at hlength; simp at hlength

end Element

end WorkflowLint.Xml
