import WorkflowLint.Proofs.Kind
import WorkflowLint.Rule.Catalogue

/-!
# `WorkflowLint.Proofs.Rule.Siblings`: siblings are judged apart

Many rules judge elements one by one: for each element of some kind they look at its
start tag and at what is below it, and nowhere else. Put the children of two root
elements under one, and such a rule reports first what it reports on the one half and
then what it reports on the other: `issues_joins`.

The root element itself must not be among the elements that are judged. It is not if
its start tag is plain (`Xml.Head.IsPlain`): it names no activity of the table, it
does not look like the declaration of a variable, and it has no attributes. The same
start tags are the ones that can be put around an element unnoticed
(`WorkflowLint.Proofs.Rule.Wrapper`).

All of it comes down to the order of a document. The elements below the root are those
of the front half followed by those of the back half (`below_joins`), so a list that is
picked from them element by element splits in two: the elements of a kind
(`ofKind_joins`), the workbooks (`workbookPaths_joins`) and the declarations
(`declarations_joins`). The rules then map and filter these lists.
-/

set_option autoImplicit false

namespace WorkflowLint

open Xml

/-! ### Plain start tags -/

/-- A start tag that says nothing about the element but its name, which means nothing
to any rule. -/
structure Xml.Head.IsPlain (h : Head) : Prop where
  /-- The name is not in the table of activities. -/
  other : ∃ tag, Kind.ofTag h.name = .other tag
  /-- The name does not look like the declaration of a variable. -/
  undeclaring : Text.occurs "Variable" h.name = false
  bare : h.attributes = []

namespace Xml.Head.IsPlain

variable {h : Head} (hplain : h.IsPlain) (content : List Node)
include hplain

/-- An element with a plain start tag is of no listed kind. -/
theorem kind_ne {k : Kind} (hk : k.isListed = true) : (⟨h, content⟩ : Element).kind ≠ k := by
  intro heq
  -- The kind is what the table makes of the name, and the table does not have it.
  obtain ⟨tag, htag⟩ := hplain.other
  rw [← heq, Element.kind, Element.name, htag] at hk
  cases hk

/-- Its name is in no list of names, since every such name stands for the kind. -/
theorem not_mem_tags {k : Kind} (hk : k.isListed = true) : h.name ∉ k.tags := by
  intro hmem
  exact hplain.kind_ne [] hk (Kind.ofTag_of_mem_tags hk h.name hmem)

/-- It has no attributes, whatever is asked for. -/
theorem attr? (name : String) : (⟨h, content⟩ : Element).attr? name = none := by
  rw [Element.attr?, hplain.bare]
  rfl

/-- It declares no variable, because its name does not say so. -/
theorem declaresVariable : Document.declaresVariable ⟨h, content⟩ = false := by
  have hname : Text.occurs "Variable" (⟨h, content⟩ : Element).name = false := hplain.undeclaring
  rw [Document.declaresVariable, hname, Bool.and_false]

end Xml.Head.IsPlain

/-! ### Documents with their children put together -/

/-- A document has the children of two others one after the other, under the same
start tag, which is a plain one. Its text and its path are free. -/
structure Document.Joins (d front back : Document) : Prop where
  plain : d.root.head.IsPlain
  frontHead : front.root.head = d.root.head
  backHead : back.root.head = d.root.head
  content : d.root.content = front.root.content ++ back.root.content

namespace Document

/-- A plain root element is not of a kind that is listed. -/
theorem ofKind_of_plain {d : Document} (hplain : d.root.head.IsPlain) {k : Kind}
    (hk : k.isListed = true) : d.ofKind k = d.root.below.filter fun e => e.kind == k := by
  -- The root comes first in the order of the document, and the test drops it.
  rw [ofKind, elements, Element.withBelow, List.filter_cons_of_neg]
  rw [beq_iff_eq]
  exact hplain.kind_ne d.root.content hk

/-- The elements that declare variables. -/
def declarations (d : Document) : List Element := d.elements.filter declaresVariable

/-- Nor is it among the declarations of variables, so these are all below it. -/
theorem declarations_of_plain {d : Document} (hplain : d.root.head.IsPlain) :
    d.declarations = d.root.below.filter declaresVariable := by
  rw [declarations, elements, Element.withBelow, List.filter_cons_of_neg]
  rw [hplain.declaresVariable d.root.content]
  exact Bool.false_ne_true

namespace Joins

variable {d front back : Document} (h : d.Joins front back)
include h

/-- The front half has the same start tag, so its root is plain as well. -/
theorem frontPlain : front.root.head.IsPlain := h.frontHead ▸ h.plain

/-- The back half has it too. -/
theorem backPlain : back.root.head.IsPlain := h.backHead ▸ h.plain

end Joins

variable {d front back : Document} (h : d.Joins front back)
include h

/-- The elements of the front half come first, then those of the back half. This is the one fact
about the order of documents that everything else rests on. -/
theorem below_joins : d.root.below = front.root.below ++ back.root.below := by
  rw [Element.below, h.content, elementsOf_append]
  rfl

/-- The elements of a listed kind split in the same way, as no root is among them. -/
theorem ofKind_joins {k : Kind} (hk : k.isListed = true) :
    d.ofKind k = front.ofKind k ++ back.ofKind k := by
  rw [ofKind_of_plain h.plain hk, ofKind_of_plain h.frontPlain hk,
    ofKind_of_plain h.backPlain hk, below_joins h, List.filter_append]

/-- So do the declarations of variables: those of the front half come first. -/
theorem declarations_joins : d.declarations = front.declarations ++ back.declarations := by
  rw [declarations_of_plain h.plain, declarations_of_plain h.frontPlain,
    declarations_of_plain h.backPlain, below_joins h, List.filter_append]

end Document

/-! ### Rules -/

namespace Rule

/-- A plain root element names no workbook, so all workbooks are named below it. -/
theorem workbookPaths_of_plain {d : Document} (hplain : d.root.head.IsPlain) :
    workbookPaths d
      = d.root.below.filterMap fun e => (e.attr? "WorkbookPath").map fun path => (e, path) := by
  -- The root has no attributes, so it is none of the elements with a workbook.
  have hroot : (d.root.attr? "WorkbookPath").map (fun path => (d.root, path)) = none := by
    rw [hplain.attr? d.root.content]
    rfl
  rw [workbookPaths, Document.elements, Element.withBelow]
  exact List.filterMap_cons_none hroot

/-- The rule on names looks at the names of variables only, so it does not matter
which namespace their types are looked for in. -/
theorem variableNaming_of (d : Document) (t : Thresholds) (uri : String) :
    variableNaming (.of d t) = variableNaming
      ⟨d, { Facts.ofDocument d with declared := d.declarations.map (Document.variableOf uri) },
        t⟩ := by
  -- The namespace decides the type of a variable, which drops out with the map to issues.
  show ((d.declarations.map (Document.variableOf d.xamlUri)).filter _).map _ = _
  rw [variableNaming, List.filter_map, List.map_map, List.filter_map, List.map_map]
  rfl

section
variable {d front back : Document} (h : d.Joins front back) (t : Thresholds)
include h

/-- So do the workbooks, which are found on elements of any kind. -/
theorem workbookPaths_joins : workbookPaths d = workbookPaths front ++ workbookPaths back := by
  rw [workbookPaths_of_plain h.plain, workbookPaths_of_plain h.frontPlain,
    workbookPaths_of_plain h.backPlain, Document.below_joins h, List.filterMap_append]

/-- A rule that reports at most one issue for each element of a kind. -/
theorem filterMap_ofKind_joins {k : Kind} (hk : k.isListed = true) (f : Element → Option Issue) :
    (d.ofKind k).filterMap f = (front.ofKind k).filterMap f ++ (back.ofKind k).filterMap f := by
  rw [Document.ofKind_joins h hk, List.filterMap_append]

/-- A rule that reports one issue for each element of a kind that fails a test. -/
theorem map_filter_ofKind_joins {k : Kind} (hk : k.isListed = true) (p : Element → Bool)
    (f : Element → Issue) :
    ((d.ofKind k).filter p).map f
      = ((front.ofKind k).filter p).map f ++ ((back.ofKind k).filter p).map f := by
  rw [Document.ofKind_joins h hk, List.filter_append, List.map_append]

/-- A rule that reports any number of issues for each element of a kind. -/
theorem flatMap_ofKind_joins {k : Kind} (hk : k.isListed = true) (f : Element → List Issue) :
    (d.ofKind k).flatMap f = (front.ofKind k).flatMap f ++ (back.ofKind k).flatMap f := by
  rw [Document.ofKind_joins h hk, List.flatMap_append]

/-- Absolute paths are picked from the workbooks one by one. -/
theorem hardcodedPaths_joins :
    hardcodedPaths (.of d t) = hardcodedPaths (.of front t) ++ hardcodedPaths (.of back t) := by
  show ((workbookPaths d).filter _).map _ = _
  rw [workbookPaths_joins h, List.filter_append, List.map_append]
  rfl

/-- Each workbook path has its misspellings, wherever it stands. -/
theorem knownMisspellings_joins :
    knownMisspellings (.of d t)
      = knownMisspellings (.of front t) ++ knownMisspellings (.of back t) := by
  show (workbookPaths d).flatMap _ = _
  rw [workbookPaths_joins h, List.flatMap_append]
  rfl

/-- Names of variables are judged one by one. The three documents may look for types in different
namespaces, but names are all that the rule looks at. -/
theorem variableNaming_joins :
    variableNaming (.of d t) = variableNaming (.of front t) ++ variableNaming (.of back t) := by
  rw [variableNaming_of d t "", variableNaming_of front t "", variableNaming_of back t ""]
  show ((d.declarations.map _).filter _).map _ = _
  rw [Document.declarations_joins h, List.map_append, List.filter_append, List.map_append]
  rfl

end

/-- The rules that judge elements one by one. -/
def elementwise : List String :=
  ["XL-001", "XL-002", "WEB-001", "WEB-002", "LOOP-001", "LOOP-002", "SEL-001", "SEL-002",
   "PATH-001", "PATH-002", "MAINT-002", "LOG-002", "LOGIC-001", "LOGIC-002", "LOGIC-003",
   "LOGIC-004"]

/-- Siblings are judged apart. Put the children of two documents together under a root
element with the same plain start tag, those of the first in front. Each rule that judges
elements one by one reports on the document that results what it reports on the first
document, followed by what it reports on the second. -/
theorem issues_joins {d front back : Document} (h : d.Joins front back) (t : Thresholds) :
    ∀ r ∈ catalogue, r.id ∈ elementwise →
      r.issues (.of d t) = r.issues (.of front t) ++ r.issues (.of back t) := by
  simp only [catalogue, List.forall_mem_cons, List.not_mem_nil, false_implies, implies_true,
    and_true]
  -- The rules in the order of the catalogue; those that are not elementwise are ruled out by
  -- name.
  refine ⟨fun hid => absurd hid (by decide), fun hid => absurd hid (by decide),
    fun _ => filterMap_ofKind_joins h rfl _, fun _ => map_filter_ofKind_joins h rfl _ _,
    fun _ => map_filter_ofKind_joins h rfl _ _, fun _ => map_filter_ofKind_joins h rfl _ _,
    fun hid => absurd hid (by decide), fun _ => map_filter_ofKind_joins h rfl _ _,
    fun _ => filterMap_ofKind_joins h rfl _, fun _ => filterMap_ofKind_joins h rfl _,
    fun _ => map_filter_ofKind_joins h rfl _ _, fun hid => absurd hid (by decide),
    fun hid => absurd hid (by decide), fun _ => hardcodedPaths_joins h t,
    fun _ => knownMisspellings_joins h t, fun hid => absurd hid (by decide),
    fun _ => variableNaming_joins h t, fun _ => flatMap_ofKind_joins h rfl _,
    fun _ => map_filter_ofKind_joins h rfl _ _, fun _ => flatMap_ofKind_joins h rfl _,
    fun _ => map_filter_ofKind_joins h rfl _ _, fun _ => map_filter_ofKind_joins h rfl _ _,
    fun hid => absurd hid (by decide)⟩

/-- A start tag in the first line that says nothing but a name. -/
def bareTag (name : String) (column : Nat) : Head :=
  { name := name, ns := none, attributes := [], declared := [], scope := [], here := ⟨1, column⟩ }

/-- A loop over rows and a branch, both empty, in one document and in two. The blanks in the
third text keep the branch where it is in the first, so that even the places in the issues are
the same. -/
theorem issues_joins_loopAndBranch :
    let document (source : String) (content : List Node) : Document :=
      ⟨"Main.xaml", source, ⟨bareTag "Activity" 1, content⟩⟩
    let loop : Node := .element (bareTag "ForEachRow" 11) []
    let branch : Node := .element (bareTag "If" 24) []
    let d := document "<Activity><ForEachRow/><If/></Activity>" [loop, branch]
    let front := document "<Activity><ForEachRow/></Activity>" [loop]
    let back := document "<Activity             ><If/></Activity>" [branch]
    d.Joins front back ∧
      ∀ r ∈ catalogue, r.id ∈ elementwise →
        r.issues (.of d {}) = r.issues (.of front {}) ++ r.issues (.of back {}) := by
  intro document loop branch d front back
  have hjoins : d.Joins front back := ⟨⟨⟨_, rfl⟩, by decide, rfl⟩, rfl, rfl, rfl⟩
  exact ⟨hjoins, issues_joins hjoins {}⟩

end Rule

end WorkflowLint
