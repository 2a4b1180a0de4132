import WorkflowLint.Xml.Tree

/-!
# `WorkflowLint.Xml.Place`: elements and where they are in a tree

Two elements of a document can look the same, so an element alone does not say
which one it is. An address does: the list of child numbers on the way down from
the root, where only elements are counted. A place is an address with the
element that is found there.

Going up is dropping the last number of an address; the parent of a place with
respect to some root exists when the root's address is a proper beginning of the
place's address.
-/

set_option autoImplicit false

namespace WorkflowLint.Xml

/-- The child numbers on the way down from the root element. -/
abbrev Address := List Nat

/-- An element and its address. -/
structure Place where
  address : Address
  element : Element

mutual

/-- The places of a node that is child number `i` of the element at `base`. -/
def Node.places (base : Address) (i : Nat) : Node → List Place
  | .element head content =>
    ⟨base ++ [i], ⟨head, content⟩⟩ :: placesOf (base ++ [i]) 0 content
  | .text _ => []
  | .aside => []

/-- The places of nodes in the content of the element at `base`, in document
order; the first element among them is child number `i`. -/
def placesOf (base : Address) (i : Nat) : List Node → List Place
  | [] => []
  | n :: rest =>
    n.places base i ++ placesOf base (if n.element?.isSome then i + 1 else i) rest

end

/-- The places strictly below a place, in document order. -/
def Place.below (p : Place) : List Place := placesOf p.address 0 p.element.content

/-- The places of all elements of a tree, in document order. -/
def Element.places (root : Element) : List Place := ⟨[], root⟩ :: placesOf [] 0 root.content

/-- The element at an address below `e`. -/
def Element.at? (e : Element) : Address → Option Element
  | [] => some e
  | i :: rest => (e.children[i]?).bind fun c => c.at? rest

/-- The place at an address. -/
def Element.place? (root : Element) (a : Address) : Option Place :=
  (root.at? a).map fun e => ⟨a, e⟩

/-- The address of the parent of `target`, if `target` lies strictly below
`root`. -/
def parentAddress? (root target : Address) : Option Address :=
  if target ≠ root ∧ root.isPrefixOf target then some target.dropLast else none

/-- The address of the next sibling, whether or not there is one. -/
def nextAddress? (a : Address) : Option Address :=
  a.getLast?.map fun i => a.dropLast ++ [i + 1]

end WorkflowLint.Xml
