import WorkflowLint.Document

/-!
# `WorkflowLint.Proofs.Xml.Skeleton`: elements without what stands between them

The skeleton of an element has the same elements at the same places, with all
texts and asides left out. Of a start tag it keeps the name with its namespace, the
attributes, the namespaces in scope and the line; the column goes, and so does the
list of namespaces that were declared right there.

Every way to look around in a tree gives on a skeleton the skeletons of what it
gives on the element: `skeleton_children`, `skeleton_below`, `skeleton_places` and
`skeleton_at?`. What is asked about the start tag alone (a name, a kind, an
attribute, the place for people) is answered alike by definition. The lemmas are
directed from the skeleton to the element, so that a question about a skeleton
becomes one about the element.
-/

set_option autoImplicit false

namespace WorkflowLint.Xml

/-! ### Skeletons -/

/-- What a skeleton keeps of a start tag. -/
def Head.skeleton (h : Head) : Head :=
  { h with declared := [], here := { h.here with column := 0 } }

mutual

/-- What a skeleton has in the place of a node: an element for an element, and
nothing for anything else. -/
def Node.skeleton : Node → List Node
  | .element head content => [.element head.skeleton (skeletonOf content)]
  | .text _ => []
  | .aside => []

/-- The skeleton of a content. -/
def skeletonOf : List Node → List Node
  | [] => []
  | n :: rest => n.skeleton ++ skeletonOf rest

end

/-- The skeleton of an element. -/
def Element.skeleton (e : Element) : Element := ⟨e.head.skeleton, skeletonOf e.content⟩

/-- A place in a skeleton. -/
def Place.skeleton (p : Place) : Place := ⟨p.address, p.element.skeleton⟩

/-- An element at the front of a content gives the skeleton of that element, and the content
within it is reduced in the same way. -/
@[simp] theorem skeletonOf_element (head : Head) (content rest : List Node) :
    skeletonOf (.element head content :: rest)
      = .element head.skeleton (skeletonOf content) :: skeletonOf rest := by
  rw [skeletonOf, Node.skeleton]
  rfl

/-- A text at the front leaves nothing behind in the skeleton. -/
@[simp] theorem skeletonOf_text (s : String) (rest : List Node) :
    skeletonOf (.text s :: rest) = skeletonOf rest := by
  rw [skeletonOf, Node.skeleton]
  rfl

/-- Nor does a comment or an instruction. -/
@[simp] theorem skeletonOf_aside (rest : List Node) :
    skeletonOf (.aside :: rest) = skeletonOf rest := by
  rw [skeletonOf, Node.skeleton]
  rfl

mutual

/-- Nodes can be compared. -/
def Node.decEq : (m n : Node) → Decidable (m = n)
  | .element head content, .element head' content' =>
    have := decEqContent content content'
    decidable_of_iff (head = head' ∧ content = content') (by rw [Node.element.injEq])
  | .text s, .text t => decidable_of_iff (s = t) (by rw [Node.text.injEq])
  | .aside, .aside => isTrue rfl
  | .element _ _, .text _ | .element _ _, .aside | .text _, .element _ _
  | .text _, .aside | .aside, .element _ _ | .aside, .text _ => isFalse nofun

/-- Contents can be compared. -/
def decEqContent : (c d : List Node) → Decidable (c = d)
  | [], [] => isTrue rfl
  | [], _ :: _ | _ :: _, [] => isFalse nofun
  | m :: c, n :: d =>
    have := Node.decEq m n
    have := decEqContent c d
    decidable_of_iff (m = n ∧ c = d) (by rw [List.cons.injEq])

end

/-- Elements can be compared, and so can their skeletons. -/
instance : DecidableEq Element := fun e f =>
  have := decEqContent e.content f.content
  decidable_of_iff (e.head = f.head ∧ e.content = f.content) (by cases e; cases f; simp)

/-- Induction over contents, which goes through the content of an element too. Nodes and contents
are defined together; stated for contents alone, with one case for each kind of node, the
principle needs no second motive. -/
theorem content_induction {motive : List Node → Prop} (nil : motive [])
    (element : ∀ head content rest, motive content → motive rest →
      motive (.element head content :: rest))
    (text : ∀ s rest, motive rest → motive (.text s :: rest))
    (aside : ∀ rest, motive rest → motive (.aside :: rest)) :
    ∀ content, motive content
  | [] => nil
  | .element head content :: rest =>
      element head content rest (content_induction nil element text aside content)
        (content_induction nil element text aside rest)
  | .text s :: rest => text s rest (content_induction nil element text aside rest)
  | .aside :: rest => aside rest (content_induction nil element text aside rest)

/-! ### Looking around in a tree -/

/-- The elements of a content, at any depth, have their skeletons in the skeleton of the content,
in the same order. -/
theorem elementsOf_skeletonOf (content : List Node) :
    elementsOf (skeletonOf content) = (elementsOf content).map Element.skeleton := by
  induction content using content_induction with
  | nil => rfl
  | element head content rest ihcontent ihrest =>
      simp [ihcontent, ihrest, Element.skeleton]
  | text s rest ih => simp [ih]
  | aside rest ih => simp [ih]

/-- Only elements add to the height of a content, so leaving out the rest does not lower it: a
text beside elements has height zero, and so has nothing at all. -/
theorem heightOf_skeletonOf (content : List Node) :
    heightOf (skeletonOf content) = heightOf content := by
  induction content using content_induction with
  | nil => rfl
  | element head content rest ihcontent ihrest =>
      rw [skeletonOf_element]
      -- Both hypotheses are used: one below the element, one beside it.
      simp only [heightOf, Node.height, ihcontent, ihrest]
  | text s rest ih =>
      rw [skeletonOf_text, ih]
      simp only [heightOf, Node.height, Nat.zero_max]
  | aside rest ih =>
      rw [skeletonOf_aside, ih]
      simp only [heightOf, Node.height, Nat.zero_max]

/-- Texts and asides have no numbers, so addresses stay as they are. The number of the next
element is part of what the induction is about, as it grows along the content. -/
theorem placesOf_skeletonOf (base : Address) (i : Nat) (content : List Node) :
    placesOf base i (skeletonOf content) = (placesOf base i content).map Place.skeleton := by
  induction content using content_induction generalizing base i with
  | nil => rfl
  | element head content rest ihcontent ihrest =>
      -- The element has a number in both trees, so the next one has the same number in both.
      rw [skeletonOf_element]
      simp [placesOf, Node.places, Node.element?, ihcontent, ihrest, Place.skeleton,
        Element.skeleton]
  | text s rest ih =>
      rw [skeletonOf_text, ih]
      rfl
  | aside rest ih =>
      rw [skeletonOf_aside, ih]
      rfl

namespace Element

/-- The children of the skeleton are the skeletons of the children. -/
@[simp] theorem skeleton_children (e : Element) :
    e.skeleton.children = e.children.map skeleton := by
  obtain ⟨head, content⟩ := e
  show (skeletonOf content).filterMap Node.element?
    = (content.filterMap Node.element?).map skeleton
  induction content with
  | nil => rfl
  | cons n rest ih =>
      cases n with
      | element head content => simp [Node.element?, ih, skeleton]
      | text s =>
          rw [skeletonOf_text, ih]
          rfl
      | aside =>
          rw [skeletonOf_aside, ih]
          rfl

/-- The same for all elements below, which come in document order in both trees. -/
@[simp] theorem skeleton_below (e : Element) : e.skeleton.below = e.below.map skeleton :=
  elementsOf_skeletonOf e.content

/-- The same with the element itself in front: the skeletons come in the same order. -/
@[simp] theorem skeleton_withBelow (e : Element) :
    e.skeleton.withBelow = e.withBelow.map skeleton := by
  rw [withBelow, skeleton_below]
  rfl

/-- The depth of an element is the height of its content, so its skeleton is as deep. -/
@[simp] theorem skeleton_depth (e : Element) : e.skeleton.depth = e.depth :=
  heightOf_skeletonOf e.content

/-- The places of the skeleton are those of the element: the addresses are the same, with
skeletons standing there. -/
@[simp] theorem skeleton_places (e : Element) :
    e.skeleton.places = e.places.map Place.skeleton := by
  rw [places, places, List.map_cons, ← placesOf_skeletonOf]
  rfl

/-- Numbers count elements only, so an address leads to the same element in both trees, or to none
in either. -/
@[simp] theorem skeleton_at? (e : Element) (a : Address) :
    e.skeleton.at? a = (e.at? a).map skeleton := by
  induction a generalizing e with
  | nil => rfl
  | cons i rest ih =>
      rw [at?, at?, skeleton_children, List.getElem?_map]
      -- Both trees have a child with this number, or neither does.
      cases e.children[i]? with
      | none => rfl
      | some c => exact ih c

/-! ### Asking about one element -/

/-- Attributes are part of the start tag, which the skeleton keeps. -/
@[simp] theorem skeleton_attr? (e : Element) (name : String) :
    e.skeleton.attr? name = e.attr? name := rfl

/-- The first child of a name is found in the skeleton as its skeleton, since the name is what is
looked at. -/
@[simp] theorem skeleton_child? (e : Element) (name : String) :
    e.skeleton.child? name = (e.child? name).map skeleton := by
  rw [child?, child?, skeleton_children, List.find?_map]
  rfl

/-- An element is hollow if it has no child element or a single one that has none itself. Both
questions are about child elements, so the skeleton answers them alike. -/
@[simp] theorem skeleton_isHollow (e : Element) : e.skeleton.isHollow = e.isHollow := by
  rw [isHollow, isHollow, skeleton_children]
  cases e.children with
  | nil => rfl
  | cons only rest =>
      cases rest with
      -- The single child is asked whether it has children of its own.
      | nil => simp
      | cons next others => rfl

/-- A search below by name finds the skeletons of what it finds in the element. -/
@[simp] theorem skeleton_belowNamed (e : Element) (names : List String) :
    e.skeleton.belowNamed names = (e.belowNamed names).map skeleton := by
  rw [belowNamed, belowNamed, skeleton_below, List.filter_map]
  rfl

/-- A search below by kind does so as well, because the kind of an element is decided by its tag. -/
@[simp] theorem skeleton_belowOfKind (e : Element) (p : Kind → Bool) :
    e.skeleton.belowOfKind p = (e.belowOfKind p).map skeleton := by
  rw [belowOfKind, belowOfKind, skeleton_below, List.filter_map]
  rfl

end Element

/-! ### Lists of skeletons

What does not tell an element from its skeleton gives the same for a list of
elements and for their skeletons. -/

section
variable {β : Type}

/-- To select from a list and say something about each element that is left: the skeletons lead to
the same, if neither the test nor what is said tells them apart. -/
theorem map_filter_skeleton {p : Element → Bool} {f : Element → β}
    (hp : ∀ e, p e.skeleton = p e) (hf : ∀ e, f e.skeleton = f e) (l : List Element) :
    ((l.map Element.skeleton).filter p).map f = (l.filter p).map f := by
  have hp' : p ∘ Element.skeleton = p := funext hp
  have hf' : f ∘ Element.skeleton = f := funext hf
  rw [List.filter_map, List.map_map, hp', hf']

/-- To say something about some of the elements, in one step. -/
theorem filterMap_skeleton {f : Element → Option β} (hf : ∀ e, f e.skeleton = f e)
    (l : List Element) : (l.map Element.skeleton).filterMap f = l.filterMap f := by
  have hf' : f ∘ Element.skeleton = f := funext hf
  rw [List.filterMap_map, hf']

/-- To say several things about each element, or none, it does not matter whether the elements or
their skeletons are asked. -/
theorem flatMap_skeleton {f : Element → List β} (hf : ∀ e, f e.skeleton = f e)
    (l : List Element) : (l.map Element.skeleton).flatMap f = l.flatMap f := by
  rw [List.flatMap_map]
  exact congrArg (List.flatMap · l) (funext hf)

end

end WorkflowLint.Xml
