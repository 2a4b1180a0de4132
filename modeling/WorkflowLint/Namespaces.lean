import WorkflowLint.Document

/-!
# `WorkflowLint.Namespaces`: the namespaces of a document

The table has one entry for every label that is bound at some element: the
namespace that the first binding in document order gives it. All bindings in
scope at an element count, its own and the inherited ones. The default namespace is
listed under `defaultLabel`, and the label `xml`, which always means the same,
is left out.
-/

set_option autoImplicit false

namespace WorkflowLint

namespace Namespaces

/-- The key of the default namespace. -/
def defaultLabel : String := "default"

/-- The namespace of the language that workflows are written in, where a document
does not say otherwise. -/
def wellKnownXaml : String := "http://schemas.microsoft.com/winfx/2006/xaml"

/-- The key of a binding. -/
def keyOf (b : Xml.Binding) : String := b.label.getD defaultLabel

/-- A table with one more binding, unless its key is there already. -/
def note (t : Table String) (b : Xml.Binding) : Table String :=
  if keyOf b == "xml" then t else t.insertNew (keyOf b) b.uri

end Namespaces

/-- The namespaces in scope somewhere in a document, the first one of each
label. -/
def Document.namespaces (d : Document) : Table String :=
  d.elements.foldl (fun t e => e.head.scope.foldl Namespaces.note t) .empty

/-- The namespace that the label `x` stands for, or else the well-known one. -/
def Document.xamlUri (d : Document) : String :=
  (d.namespaces.get? "x").getD Namespaces.wellKnownXaml

end WorkflowLint
