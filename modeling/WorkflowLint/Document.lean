import WorkflowLint.Kind
import WorkflowLint.Sorted
import WorkflowLint.Text.Search
import WorkflowLint.Xml.Place
import WorkflowLint.Xml.Reader

/-!
# `WorkflowLint.Document`: workflow files

A workflow file is an XML document whose elements are activities and what
belongs to them. Elements are looked up by the names of their tags without
regard to namespaces, because studios of different age put the same activity
into different ones; or by the kind of activity that a tag names.

A tag with a full stop in it, such as `Sequence.Variables`, holds a property of
the element around it.
-/

set_option autoImplicit false

namespace WorkflowLint

namespace Xml.Element

/-- The kind of activity that the element is. -/
def kind (e : Element) : Kind := .ofTag e.name

/-- The name that people gave the element, if any. -/
def displayName? (e : Element) : Option String := e.attr? "DisplayName"

/-- The name that people gave the element, or else `fallback`. -/
def display (e : Element) (fallback : String) : String := e.displayName?.getD fallback

/-- Whether the element holds a property of the one around it. -/
def isProperty (e : Element) : Bool := e.name.toList.contains '.'

/-- Whether nothing happens inside: there is no child, or one child that has
none. -/
def isHollow (e : Element) : Bool :=
  match e.children with
  | [] => true
  | [only] => only.children.isEmpty
  | _ => false

/-- The elements strictly below that have one of the names, in document order. -/
def belowNamed (e : Element) (names : List String) : List Element :=
  e.below.filter fun d => names.contains d.name

/-- The elements strictly below whose kind satisfies `p`, in document order. -/
def belowOfKind (e : Element) (p : Kind → Bool) : List Element :=
  e.below.filter fun d => p d.kind

/-- Where the element is, for people: its tag, its display name and its line. -/
def located (e : Element) : String :=
  let tag := e.name
  let line := e.head.here.line
  match e.displayName? with
  | some name => s!"{tag} '{name}' (line {line})"
  | none => s!"{tag} (line {line})"

end Xml.Element

/-- A workflow file: its path, its text and its root element. -/
structure Document where
  file : String
  source : String
  root : Xml.Element

namespace Document

/-- The document that a text is. -/
def read (source file : String) : Except Xml.Error Document := do
  return ⟨file, source, ← Xml.read source⟩

/-- All elements in document order, the root element first. -/
def elements (d : Document) : List Xml.Element := d.root.withBelow

/-- The elements with a name, in document order. -/
def named (d : Document) (name : String) : List Xml.Element :=
  d.elements.filter fun e => e.name == name

/-- The elements of a kind, in document order. -/
def ofKind (d : Document) (k : Kind) : List Xml.Element :=
  d.elements.filter fun e => e.kind == k

/-- How many elements of a kind there are. -/
def countKind (d : Document) (k : Kind) : Nat := (d.ofKind k).length

/-- How many levels of elements lie below the root element. -/
def depth (d : Document) : Nat := d.root.depth

end Document

end WorkflowLint
