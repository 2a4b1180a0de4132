import Mathlib.Data.List.Nodup
import WorkflowLint.Proofs.Xml.Skeleton

/-!
# `WorkflowLint.Proofs.Xml.Place`: what is at an address

The places of a tree are listed by a walk in document order, and an address is followed from
the root down. Both say the same: a place is listed exactly when its address leads to its
element (`mem_places_iff`). So an address has one place (`eq_of_address_eq`), and the places
below a place are those whose addresses go on from its address (`mem_below_iff`). Document order is
an order of addresses, and the walk keeps to it (`pairwise_placesOf`), so no place is listed twice
(`nodup_places`).

The walk below a place goes through one child after the other (`below_eq_flatMap`). Forgetting the
addresses gives the lists of elements that rules go through (`map_places`, `map_below`,
`map_children`).
-/

set_option autoImplicit false

namespace WorkflowLint.Xml

/-! ### Following an address -/

/-- An address is followed one part after the other: the second part starts from the element to
which the first one leads, and leads nowhere if the first one does. -/
theorem Element.at?_append (e : Element) (a b : Address) :
    e.at? (a ++ b) = (e.at? a).bind (·.at? b) := by
  induction a generalizing e with
  | nil => rfl
  | cons i a ih =>
    show (e.children[i]?).bind (fun c => c.at? (a ++ b))
      = ((e.children[i]?).bind fun c => c.at? a).bind (·.at? b)
    cases e.children[i]? with
    | none => rfl
    -- Only here is there a way on.
    | some c => exact ih c

/-! ### Document order -/

namespace Place

/-- One place comes before another in document order: the first one is on the way down to the other
one, or its way goes through the earlier child where the two ways part. -/
def Before (p q : Place) : Prop := List.Lex (· < ·) p.address q.address

instance (p q : Place) : Decidable (p.Before q) := List.decidableLex ..

/-- No place comes before itself, since the order of addresses is strict. -/
theorem Before.ne {p q : Place} (h : p.Before q) : p ≠ q := by
  rintro rfl
  exact List.lt_irrefl _ h

end Place

/-! ### The walk -/

section
variable (base : Address) (i : Nat)

/-- At an element the walk lists its place, then goes through its content, where numbers start
again, and goes on behind it with the next number. -/
theorem placesOf_element (head : Head) (content rest : List Node) :
    placesOf base i (.element head content :: rest)
      = ⟨base ++ [i], ⟨head, content⟩⟩ ::
          (placesOf (base ++ [i]) 0 content ++ placesOf base (i + 1) rest) := by
  simp [placesOf, Node.places, Node.element?]

/-- At a text there is nothing to list, and the number stays. -/
theorem placesOf_text (text : String) (rest : List Node) :
    placesOf base i (.text text :: rest) = placesOf base i rest := rfl

/-- The same at a comment or an instruction: it is passed over, and the numbers of the children go
on as if it were not there. -/
theorem placesOf_aside (rest : List Node) :
    placesOf base i (.aside :: rest) = placesOf base i rest := rfl

/-- The walk goes through the elements in document order: without the addresses it is the list of
elements that rules go through. -/
theorem map_placesOf (content : List Node) :
    (placesOf base i content).map (·.element) = elementsOf content := by
  induction content using content_induction generalizing base i with
  | nil => rfl
  | element head content rest ihcontent ihrest =>
    rw [placesOf_element, List.map_cons, List.map_append, ihcontent, ihrest]
    simp
  | text s rest ih => rw [placesOf_text, ih, elementsOf_cons]; rfl
  | aside rest ih => rw [placesOf_aside, ih, elementsOf_cons]; rfl

/-- The places in a content are what addresses lead to that go on from the place around it. The
first element has the number `i`, and `j` counts from there. -/
theorem mem_placesOf_iff {p : Place} (content : List Node) :
    p ∈ placesOf base i content ↔ ∃ j rest,
      p.address = base ++ (i + j) :: rest ∧
      ((content.filterMap Node.element?)[j]?.bind fun c => c.at? rest) = some p.element := by
  induction content using content_induction generalizing base i with
  | nil => simp [placesOf]
  | element head content rest ihcontent ihrest =>
    rw [placesOf_element, List.mem_cons, List.mem_append, ihcontent, ihrest]
    constructor
    -- The element itself, a place within it, or one behind it, where numbers are greater by one.
    · rintro (rfl | ⟨j, tail, haddress, hat⟩ | ⟨j, tail, haddress, hat⟩)
      · exact ⟨0, [], rfl, rfl⟩
      · exact ⟨0, j :: tail, by simp [haddress], hat⟩
      · exact ⟨j + 1, tail, by rw [haddress, Nat.add_right_comm, Nat.add_assoc], hat⟩
    · rintro ⟨j, tail, haddress, hat⟩
      cases j with
      | zero =>
        cases tail with
        | nil =>
          left
          obtain ⟨address, element⟩ := p
          obtain rfl : address = base ++ [i] := haddress
          obtain rfl : ⟨head, content⟩ = element := Option.some.inj hat
          rfl
        | cons j tail => exact .inr (.inl ⟨j, tail, by simpa using haddress, hat⟩)
      | succ j =>
        exact .inr (.inr ⟨j, tail, by rw [haddress, Nat.add_right_comm, Nat.add_assoc], hat⟩)
  | text s rest ih => exact ih base i
  | aside rest ih => exact ih base i

/-- The walk goes through the places in document order. An element comes before what is in it, and
both come before what is behind it. -/
theorem pairwise_placesOf (content : List Node) :
    (placesOf base i content).Pairwise Place.Before := by
  induction content using content_induction generalizing base i with
  | nil => exact List.Pairwise.nil
  | element head content rest ihcontent ihrest =>
    -- Addresses in the element go on from its own, and those behind it have a greater number.
    have hinside : ∀ q ∈ placesOf (base ++ [i]) 0 content,
        ∃ j tail, q.address = base ++ i :: j :: tail := by
      intro q hq
      obtain ⟨j, tail, haddress, -⟩ := (mem_placesOf_iff ..).mp hq
      exact ⟨0 + j, tail, by rw [haddress, List.append_assoc]; rfl⟩
    have hbehind : ∀ q ∈ placesOf base (i + 1) rest,
        ∃ j tail, i < j ∧ q.address = base ++ j :: tail := by
      intro q hq
      obtain ⟨j, tail, haddress, -⟩ := (mem_placesOf_iff ..).mp hq
      exact ⟨i + 1 + j, tail, by omega, haddress⟩
    rw [placesOf_element, List.pairwise_cons, List.pairwise_append]
    refine ⟨fun q hq => ?_, ihcontent _ _, ihrest _ _, fun p hp q hq => ?_⟩
    -- The element against what is in it, and against what is behind it.
    · rcases List.mem_append.mp hq with hq | hq
      · obtain ⟨j, tail, haddress⟩ := hinside q hq
        rw [Place.Before, haddress]
        exact List.append_left_lt (List.Lex.cons List.Lex.nil)
      · obtain ⟨j, tail, hlt, haddress⟩ := hbehind q hq
        rw [Place.Before, haddress]
        exact List.append_left_lt (List.Lex.rel hlt)
    -- What is in it against what is behind it: the numbers differ where the ways part.
    · obtain ⟨j, tail, haddress⟩ := hinside p hp
      obtain ⟨k, tail', hlt, haddress'⟩ := hbehind q hq
      rw [Place.Before, haddress, haddress']
      exact List.append_left_lt (List.Lex.rel hlt)
  | text s rest ih => exact ih base i
  | aside rest ih => exact ih base i

end

/-! ### Places of a tree -/

namespace Element

variable {root : Element}

/-- A place is one of the tree exactly when its address leads to its element. The empty address
leads to the root, which is listed apart. -/
theorem mem_places_iff {p : Place} : p ∈ root.places ↔ root.at? p.address = some p.element := by
  obtain ⟨address, element⟩ := p
  -- The root has the empty address, all other places a number in front.
  rw [places, List.mem_cons, mem_placesOf_iff]
  cases address with
  | nil => simp [at?, eq_comm]
  | cons j tail =>
    simp only [List.nil_append, Nat.zero_add, Place.mk.injEq, reduceCtorEq, false_and, false_or,
      List.cons.injEq]
    constructor
    · rintro ⟨j, tail, ⟨rfl, rfl⟩, hat⟩
      exact hat
    · intro hat
      exact ⟨j, tail, ⟨rfl, rfl⟩, hat⟩

/-- An address has one place, since it leads to one element at most. -/
theorem eq_of_address_eq {p q : Place} (hp : p ∈ root.places) (hq : q ∈ root.places)
    (h : p.address = q.address) : p = q := by
  have helement : some p.element = some q.element := by
    rw [← mem_places_iff.mp hp, ← mem_places_iff.mp hq, h]
  obtain ⟨address, element⟩ := p
  obtain ⟨address', element'⟩ := q
  obtain rfl : address = address' := h
  obtain rfl : element = element' := Option.some.inj helement
  rfl

/-- The places of a tree are listed in document order, the root first. -/
theorem pairwise_places (root : Element) : root.places.Pairwise Place.Before := by
  refine List.pairwise_cons.mpr ⟨fun p hp => ?_, pairwise_placesOf [] 0 root.content⟩
  obtain ⟨j, tail, haddress, -⟩ := (mem_placesOf_iff ..).mp hp
  rw [Place.Before, haddress]
  exact List.Lex.nil

/-- So no place is listed twice, even if equal elements stand in several places. -/
theorem nodup_places (root : Element) : root.places.Nodup :=
  (pairwise_places root).imp fun h => h.ne

/-- The elements at the places of a tree are its elements, with the root in front. -/
theorem map_places (root : Element) : root.places.map (·.element) = root.withBelow := by
  rw [places, List.map_cons, map_placesOf]
  rfl

end Element

namespace Place

/-- The places of the elements directly below, in order. -/
def children (p : Place) : List Place :=
  p.element.children.mapIdx fun i c => ⟨p.address ++ [i], c⟩

/-- The place of the first child with a name. -/
def child? (p : Place) (name : String) : Option Place :=
  p.children.find? fun c => c.element.name == name

/-- The elements at the places below a place are those below its element. -/
theorem map_below (p : Place) : p.below.map (·.element) = p.element.below :=
  map_placesOf p.address 0 p.element.content

/-- The elements at the children of a place are the children of its element. -/
theorem map_children (p : Place) : p.children.map (·.element) = p.element.children := by
  -- Number by number, a child and its place are there or not.
  refine List.ext_getElem? fun i => ?_
  rw [children, List.getElem?_map, List.getElem?_mapIdx, Option.map_map]
  exact Option.map_id'

/-- To look for a child with a name leads to the same element, with its place or without. -/
theorem map_child? (p : Place) (name : String) :
    (p.child? name).map (·.element) = p.element.child? name := by
  rw [child?, Element.child?, ← map_children, List.find?_map]
  rfl

/-- The children of a place are at its address followed by their number. -/
theorem getElem?_children_eq_some_iff {p c : Place} {i : Nat} :
    p.children[i]? = some c ↔
      c.address = p.address ++ [i] ∧ p.element.children[i]? = some c.element := by
  rw [children, List.getElem?_mapIdx, Option.map_eq_some_iff]
  constructor
  · rintro ⟨e, he, rfl⟩
    exact ⟨rfl, he⟩
  · rintro ⟨haddress, he⟩
    exact ⟨c.element, he, by rw [← haddress]⟩

/-- A child of a place is known by its address, which goes on by one number. -/
theorem mem_children_iff {p c : Place} :
    c ∈ p.children ↔ ∃ i, c.address = p.address ++ [i] ∧ p.element.children[i]? = some c.element := by
  rw [List.mem_iff_getElem?]
  exact exists_congr fun i => getElem?_children_eq_some_iff

/-- The places below a place are those whose addresses go on from its address, by one number or
more. -/
theorem mem_below_iff {p q : Place} :
    q ∈ p.below ↔ ∃ i tail, q.address = p.address ++ i :: tail ∧
      p.element.at? (i :: tail) = some q.element := by
  rw [below, mem_placesOf_iff]
  simp only [Nat.zero_add]
  rfl

/-- They are listed in document order as well, each before all that come behind it. -/
theorem pairwise_below (p : Place) : p.below.Pairwise Before :=
  pairwise_placesOf p.address 0 p.element.content

/-- None of them is listed twice, as none comes before itself. -/
theorem nodup_below (p : Place) : p.below.Nodup :=
  p.pairwise_below.imp fun h => h.ne

/-- The places below are the children, each followed by the places below it. -/
theorem below_eq_flatMap (p : Place) : p.below = p.children.flatMap fun c => c :: c.below := by
  -- The walk goes on behind an element with the next number, so it is followed from any number.
  have hwalk : ∀ (content : List Node) (i : Nat), placesOf p.address i content
      = ((content.filterMap Node.element?).mapIdx fun j c =>
          (⟨p.address ++ [i + j], c⟩ : Place)).flatMap fun c => c :: c.below := by
    intro content
    induction content with
    | nil => intro i; rfl
    | cons n rest ih =>
      intro i
      cases n with
      | element head content =>
        rw [placesOf_element, ih]
        simp [Node.element?, List.mapIdx_cons, below, Nat.add_assoc, Nat.add_comm 1]
      | text s => exact ih i
      | aside => exact ih i
  have hstart := hwalk p.element.content 0
  simp only [Nat.zero_add] at hstart
  exact hstart

/-- No child is listed twice: two children have different numbers, so different addresses. -/
theorem nodup_children (p : Place) : p.children.Nodup := by
  rw [List.Nodup, List.pairwise_iff_getElem]
  intro i j hi hj hlt h
  have haddress := congrArg Place.address h
  simp [children] at haddress
  omega

section
variable {root : Element} {p q : Place} (hp : p ∈ root.places)
include hp

/-- What is below a place of a tree is a place of the tree. The address from the root is followed
in two parts. -/
theorem mem_places_of_mem_below (hq : q ∈ p.below) : q ∈ root.places := by
  obtain ⟨i, tail, haddress, hat⟩ := mem_below_iff.mp hq
  rw [Element.mem_places_iff, haddress, Element.at?_append, Element.mem_places_iff.mp hp]
  exact hat

/-- A child of a place of a tree is a place of the tree. -/
theorem mem_places_of_mem_children (hq : q ∈ p.children) : q ∈ root.places := by
  obtain ⟨i, haddress, hat⟩ := mem_children_iff.mp hq
  rw [Element.mem_places_iff, haddress, Element.at?_append, Element.mem_places_iff.mp hp]
  show (p.element.children[i]?).bind (fun c => c.at? []) = some q.element
  rw [hat]
  rfl

end

end Place

end WorkflowLint.Xml
