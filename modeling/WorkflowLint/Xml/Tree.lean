import WorkflowLint.Xml.Error

/-!
# `WorkflowLint.Xml.Tree`: documents as trees

The content of an element is a list of nodes: elements, texts and asides
(comments and processing instructions). An element carries what its start tag
said, the namespaces in scope there and the place where it starts.

`elementsOf` lists the elements of a content in document order, each in front of
what it contains; all searches of a document are filters of such lists.
-/

set_option autoImplicit false

namespace WorkflowLint.Xml

/-- An attribute with the namespace of its name. -/
structure Attribute where
  ns : Option String
  name : String
  value : String
deriving DecidableEq, Repr

/-- A namespace with the label it is bound to; the default one has no label. -/
structure Binding where
  label : Option String
  uri : String
deriving DecidableEq, Repr

/-- What is known of an element besides its content. -/
structure Head where
  /-- The name without its label. -/
  name : String
  ns : Option String
  /-- The attributes in source order, namespace declarations left out. -/
  attributes : List Attribute
  /-- The namespaces that the element declares itself, in source order. -/
  declared : List Binding
  /-- The namespaces in scope: its own, then the inherited ones that it does not
  declare anew. -/
  scope : List Binding
  /-- Where the start tag starts. -/
  here : Position
deriving DecidableEq, Repr

/-- A node of a document. -/
inductive Node where
  | element (head : Head) (content : List Node)
  | text (s : String)
  | aside

/-- An element: its head and its content. -/
structure Element where
  head : Head
  content : List Node

/-- The element that a node is. -/
def Node.element? : Node → Option Element
  | .element head content => some ⟨head, content⟩
  | .text _ => none
  | .aside => none

/-- The node of an element. -/
def Element.node (e : Element) : Node := .element e.head e.content

mutual

/-- The elements of a node in document order, itself first, in front of others. -/
def Node.elementsOnto (others : List Element) : Node → List Element
  | .element head content => ⟨head, content⟩ :: elementsOnto others content
  | .text _ => others
  | .aside => others

/-- The elements of a content in document order, in front of others. Building the
list onto others takes one step for each node. -/
def elementsOnto (others : List Element) : List Node → List Element
  | [] => others
  | n :: rest => n.elementsOnto (elementsOnto others rest)

end

/-- The elements of a node in document order: itself, then those below it. -/
def Node.elements (n : Node) : List Element := n.elementsOnto []

/-- The elements of a content in document order. -/
def elementsOf (content : List Node) : List Element := elementsOnto [] content

mutual

/-- Collecting in front of others is listing and appending. The walk that runs puts each element
in front of what follows it, so that nothing is appended twice. -/
theorem Node.elementsOnto_eq (others : List Element) :
    ∀ n : Node, n.elementsOnto others = n.elements ++ others
  | .element head content => by
    simp [Node.elements, Node.elementsOnto, elementsOnto_eq others content,
      elementsOnto_eq [] content]
  | .text _ => rfl
  | .aside => rfl

/-- The same for a content, node by node. -/
theorem elementsOnto_eq (others : List Element) :
    ∀ content : List Node, elementsOnto others content = elementsOf content ++ others
  | [] => rfl
  | n :: rest => by
    simp only [elementsOf, elementsOnto]
    rw [Node.elementsOnto_eq _ n, Node.elementsOnto_eq (elementsOnto [] rest) n,
      elementsOnto_eq others rest, elementsOnto_eq [] rest]
    simp

end

/-- An element comes first, then the elements of its content. -/
@[simp] theorem Node.elements_element (head : Head) (content : List Node) :
    (Node.element head content).elements = ⟨head, content⟩ :: elementsOf content := rfl

/-- A text has no elements. -/
@[simp] theorem Node.elements_text (s : String) : (Node.text s).elements = [] := rfl

/-- Neither has a comment or an instruction. -/
@[simp] theorem Node.elements_aside : Node.aside.elements = [] := rfl

/-- There are no elements in an empty content. -/
@[simp] theorem elementsOf_nil : elementsOf [] = [] := rfl

/-- The elements of the first node come first. -/
@[simp] theorem elementsOf_cons (n : Node) (rest : List Node) :
    elementsOf (n :: rest) = n.elements ++ elementsOf rest :=
  Node.elementsOnto_eq (elementsOf rest) n

/-- Document order goes through one part of a content after the other. -/
@[simp] theorem elementsOf_append (front back : List Node) :
    elementsOf (front ++ back) = elementsOf front ++ elementsOf back := by
  induction front with
  | nil => rfl
  | cons n rest ih => rw [List.cons_append, elementsOf_cons, elementsOf_cons, ih, List.append_assoc]

mutual

/-- How many levels of elements a node has. -/
def Node.height : Node → Nat
  | .element _ content => 1 + heightOf content
  | .text _ => 0
  | .aside => 0

/-- How many levels of elements a content has. -/
def heightOf : List Node → Nat
  | [] => 0
  | n :: rest => max n.height (heightOf rest)

end

namespace Element

/-- The name without its label. -/
def name (e : Element) : String := e.head.name

/-- The elements directly below, in order. -/
def children (e : Element) : List Element := e.content.filterMap Node.element?

/-- The elements strictly below, in document order. -/
def below (e : Element) : List Element := elementsOf e.content

/-- The element itself and the elements below it, in document order. -/
def withBelow (e : Element) : List Element := e :: e.below

/-- How many levels of elements lie below. -/
def depth (e : Element) : Nat := heightOf e.content

/-- The value of the attribute with a name and no namespace. -/
def attr? (e : Element) (name : String) : Option String :=
  (e.head.attributes.find? fun a => a.ns.isNone && a.name == name).map (·.value)

/-- The value of the attribute with a name in a namespace. -/
def attrIn? (e : Element) (ns name : String) : Option String :=
  (e.head.attributes.find? fun a => a.ns == some ns && a.name == name).map (·.value)

/-- The first child with a name, whatever its namespace. -/
def child? (e : Element) (name : String) : Option Element :=
  e.children.find? fun c => c.name == name

/-- The text that the content starts with. -/
def leadingText? (e : Element) : Option String :=
  match e.content with
  | .text s :: _ => some s
  | _ => none

end Element

end WorkflowLint.Xml
