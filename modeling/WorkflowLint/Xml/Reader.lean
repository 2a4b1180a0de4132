import WorkflowLint.Xml.Reference
import WorkflowLint.Xml.Tree

/-!
# `WorkflowLint.Xml.Reader`: from tokens to a tree

`read` builds the root element of a text. It takes the tokens in order and keeps
the elements that are still open. Names are resolved when a start tag is
complete: first the attributes in order, then the element itself, in the
namespaces that its declarations leave in scope. A token's own fault comes in
its turn, so of several faults the first one in the text is reported.
-/

set_option autoImplicit false

namespace WorkflowLint.Xml

/-- The namespace that the label `xml` stands for everywhere. -/
def xmlUri : String := "http://www.w3.org/XML/1998/namespace"

/-- The namespace of namespace declarations, which no label may be bound to. -/
def xmlnsUri : String := "http://www.w3.org/2000/xmlns/"

/-- An attribute of a start tag whose name is not resolved yet. -/
structure RawAttribute where
  name : QName
  value : String
  here : Position

/-- A start tag being read; lists hold the last item first. -/
structure StartTag where
  name : QName
  here : Position
  attributes : List RawAttribute
  declared : List Binding

/-- An element whose end tag is still to come; its content is held with the last
node first. -/
structure OpenElement where
  name : QName
  head : Head
  content : List Node

/-- The state of the reading between two tokens. -/
structure Builder where
  tag? : Option StartTag
  stack : List OpenElement
  root? : Option Element

namespace Builder

/-- Nothing read yet. -/
def empty : Builder := ⟨none, [], none⟩

/-- The namespaces in scope for an element: its own declarations, then the
inherited ones that it does not declare anew. -/
def scopeOf (own inherited : List Binding) : List Binding :=
  own ++ inherited.filter fun b => !own.any (·.label == b.label)

/-- The binding of a label; the first one counts. -/
def lookup? (scope : List Binding) (label : String) : Option Binding :=
  scope.find? fun b => b.label == (if label.isEmpty then none else some label)

/-- The namespace of a label, which must be bound unless it is empty. -/
def resolve (scope : List Binding) (label : String) (here : Position) :
    Except Error (Option String) :=
  match lookup? scope label with
  | some b => .ok (some b.uri)
  | none => if label.isEmpty then .ok none else .error (.unknownNamespace label here)

/-- The attributes of a start tag with their names resolved, in order, behind
those in `done`. No two may have the same name in the same namespace. -/
def resolveAttributes (scope : List Binding) (done : List Attribute) :
    List RawAttribute → Except Error (List Attribute)
  | [] => .ok done
  | a :: rest => do
    let ns ←
      if a.name.label == "xml" then .ok (some xmlUri)
      else if a.name.label.isEmpty then .ok none
      else resolve scope a.name.label a.here
    if done.any fun b => b.ns == ns && b.name == a.name.name then
      throw (.attributeTwice a.name.name a.here)
    resolveAttributes scope (done ++ [⟨ns, a.name.name, a.value⟩]) rest

/-- A node added to the innermost open element. Texts that touch become one.
Outside of the root element there is nowhere to add it. -/
def add (b : Builder) (n : Node) : Builder :=
  match b.stack with
  | [] => b
  | top :: outer =>
    let content :=
      match n, top.content with
      | .text s, .text t :: before => .text (t ++ s) :: before
      | _, before => n :: before
    { b with stack := ⟨top.name, top.head, content⟩ :: outer }

/-- A finished element in its place: in the innermost open element, or as the
root. -/
def finish (b : Builder) (e : Element) : Builder :=
  match b.stack with
  | [] => { b with root? := some e }
  | _ :: _ => b.add e.node

/-- A namespace declaration added to a start tag. -/
def declare (tag : StartTag) (name : QName) (uri : String) (here : Position) :
    Except Error StartTag :=
  if name.label == "xmlns" then
    if uri == xmlnsUri then .error (.reservedUri here)
    else if name.name == "xml" && uri != xmlUri then .error (.xmlLabelElsewhere here)
    else if name.name != "xml" && uri == xmlUri then .error (.xmlUriElsewhere here)
    else if tag.declared.any (·.label == some name.name) then
      .error (.namespaceTwice name.name here)
    else if uri == xmlUri then .ok tag
    else .ok { tag with declared := ⟨some name.name, uri⟩ :: tag.declared }
  else if uri == xmlUri then .error (.xmlUriElsewhere here)
  else if uri == xmlnsUri then .error (.reservedUri here)
  else .ok { tag with declared := ⟨none, uri⟩ :: tag.declared }

/-- An attribute added to a start tag: a namespace declaration, or one to be
resolved when the tag is complete. -/
def addAttribute (tag : StartTag) (name : QName) (value : Passage) (here : Position) :
    Except Error StartTag := do
  let value ← value.value
  if name.label == "xmlns" || name.name == "xmlns" then declare tag name value here
  else .ok { tag with attributes := ⟨name, value, here⟩ :: tag.attributes }

/-- The head of an element whose start tag is complete. -/
def headOf (b : Builder) (tag : StartTag) : Except Error Head := do
  let own := tag.declared.reverse
  let inherited := (b.stack.head?.map (·.head.scope)).getD []
  let scope := scopeOf own inherited
  let attributes ← resolveAttributes scope [] tag.attributes.reverse
  let ns ← resolve scope tag.name.label (tag.here.after '<')
  return ⟨tag.name.name, ns, attributes, own, scope, tag.here⟩

/-- The state after one more token. -/
def push (b : Builder) : Token → Except Error Builder
  | .tagStart name here =>
    if name.label == "xmlns" then .error (.reservedElementLabel (here.after '<'))
    else .ok { b with tag? := some ⟨name, here, [], []⟩ }
  | .attr name value here =>
    match b.tag? with
    | none => .ok b
    | some tag => do return { b with tag? := some (← addAttribute tag name value here) }
  | .tagEnd isEmpty =>
    match b.tag? with
    | none => .ok b
    | some tag => do
      let head ← b.headOf tag
      let b := { b with tag? := none }
      if isEmpty then return b.finish ⟨head, []⟩
      else return { b with stack := ⟨tag.name, head, []⟩ :: b.stack }
  | .endTag name here =>
    match b.stack with
    | [] => .ok b
    | top :: outer =>
      if name = top.name then
        .ok (finish { b with stack := outer } ⟨top.head, top.content.reverse⟩)
      else .error (.endTagMismatch top.name.text name.text here)
  | .text passage => do return b.add (.text (← passage.resolved))
  | .literal passage => .ok (b.add (.text passage.verbatim))
  | .aside => .ok (b.add .aside)

end Builder

/-- The root element of a text. -/
def read (text : String) : Except Error Element := do
  let ts := tokens text.toList
  let b ← ts.tokens.foldlM Builder.push Builder.empty
  match ts.fault? with
  | some e => throw e
  | none =>
    match b.stack with
    | _ :: _ => .error .rootNotClosed
    | [] =>
      match b.root? with
      | some root => .ok root
      | none => .error .noRoot

end WorkflowLint.Xml
