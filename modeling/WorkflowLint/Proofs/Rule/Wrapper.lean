import Mathlib.Data.List.Basic
import WorkflowLint.Proofs.Rule.Siblings
import WorkflowLint.Proofs.Xml.Skeleton

/-!
# `WorkflowLint.Proofs.Rule.Wrapper`: elements may be wrapped unnoticed

Studios put elements around activities that mean nothing by themselves. Rules that look
for something below an element, at any depth, or that count elements do not notice such
a wrapper: `issues_wraps`. Rules that look at children, at siblings or at the depth of
nesting do, and so does the one that counts all activities.

`Xml.Wraps` relates a content to the same content with plain start tags put around some
of its elements. It allows any number of wrappers, one inside the other too, and leaves
the namespaces in scope open, because a wrapper may declare some. Every element can be
wrapped alone (`Wraps.exists_of_mem`).

The proof is one induction, `flatMap_elementsOf_wraps`. Take a function that finds
nothing in plain elements and finds the same in an element whatever is wrapped below it
(`Unaffected`). What it finds in all elements of a content, in document order, is what
it finds once some elements are wrapped. The lemma is used twice: for what a rule looks
at below an element (`map_filter_wraps`, `length_filter_wraps`), which makes the judgement
of one element unaffected, and for the judgements of all elements.
-/

set_option autoImplicit false

namespace WorkflowLint

namespace Xml

/-! ### Wrapping -/

/-- A content, and the same with plain start tags around some of its elements. The
elements are what they were, but for the namespaces in scope. -/
inductive Wraps : List Node → List Node → Prop where
  | nil : Wraps [] []
  | text (s : String) {rest rest' : List Node} (hrest : Wraps rest rest') :
      Wraps (.text s :: rest) (.text s :: rest')
  | aside {rest rest' : List Node} (hrest : Wraps rest rest') :
      Wraps (.aside :: rest) (.aside :: rest')
  | element (head : Head) (scope : List Binding) {content content' rest rest' : List Node}
      (hcontent : Wraps content content') (hrest : Wraps rest rest') :
      Wraps (.element head content :: rest)
        (.element { head with scope := scope } content' :: rest')
  | wrapper {w : Head} (hw : w.IsPlain) {head : Head} {content : List Node} {inner : Node}
      {rest rest' : List Node} (hinner : Wraps [.element head content] [inner])
      (hrest : Wraps rest rest') :
      Wraps (.element head content :: rest) (.element w [inner] :: rest')

namespace Wraps

/-- A content is what becomes of it when nothing is wrapped. Each element keeps its namespaces in
scope. -/
theorem refl (content : List Node) : Wraps content content := by
  induction content using content_induction with
  | nil => exact nil
  | element head content rest ihcontent ihrest => exact element head head.scope ihcontent ihrest
  | text s rest ih => exact text s ih
  | aside rest ih => exact aside ih

/-- Every element can be wrapped alone: the wrapper contains just this element, and there
is one element more. -/
theorem exists_of_mem {w : Head} (hw : w.IsPlain) {e : Element} {content : List Node}
    (he : e ∈ elementsOf content) :
    ∃ content', Wraps content content' ∧ ⟨w, [e.node]⟩ ∈ elementsOf content' ∧
      (elementsOf content').length = (elementsOf content).length + 1 := by
  induction content using content_induction with
  | nil => cases he
  | element head content rest ihcontent ihrest =>
      rw [elementsOf_cons, Node.elements_element, List.cons_append, List.mem_cons,
        List.mem_append] at he
      -- The element is the first one, below the first one, or further on.
      rcases he with rfl | he | he
      · exact ⟨.element w [.element head content] :: rest, wrapper hw (refl _) (refl rest),
          by simp [Element.node], by simp⟩
      · obtain ⟨content', hwraps, hmem, hlength⟩ := ihcontent he
        refine ⟨.element head content' :: rest, element head head.scope hwraps (refl rest), ?_, ?_⟩
        · simp [hmem]
        · simp [hlength]
          omega
      · obtain ⟨rest', hwraps, hmem, hlength⟩ := ihrest he
        refine ⟨.element head content :: rest',
          element head head.scope (refl content) hwraps, ?_, ?_⟩
        · simp [hmem]
        · simp [hlength]
          omega
  | text s rest ih =>
      obtain ⟨rest', hwraps, hmem, hlength⟩ := ih (by simpa using he)
      -- Texts are in the way, but not elements.
      exact ⟨.text s :: rest', text s hwraps, by simpa using hmem, by simpa using hlength⟩
  | aside rest ih =>
      obtain ⟨rest', hwraps, hmem, hlength⟩ := ih (by simpa using he)
      exact ⟨.aside :: rest', aside hwraps, by simpa using hmem, by simpa using hlength⟩

/-- Wrapping makes no elements out of nothing, and takes none away: a wrapper stands where an
element was. -/
theorem isEmpty_elementsOf {content content' : List Node} (h : Wraps content content') :
    (elementsOf content').isEmpty = (elementsOf content).isEmpty := by
  induction h with
  | nil => rfl
  | text s _ ih => simpa using ih
  | aside _ ih => simpa using ih
  | element head scope _ _ _ _ => rfl
  | wrapper hw _ _ _ _ => rfl

end Wraps

/-! ### What is found in elements -/

section
variable {β : Type}

/-- Something about an element that is the same whatever is wrapped below it. -/
def Unaffected (f : Element → β) : Prop :=
  ∀ (head : Head) (scope : List Binding) {content content' : List Node}, Wraps content content' →
    f ⟨{ head with scope := scope }, content'⟩ = f ⟨head, content⟩

/-- A test that no plain element passes, and that an element passes or fails whatever is
wrapped below it. -/
structure Selects (p : Element → Bool) : Prop where
  plain : ∀ head content, head.IsPlain → p ⟨head, content⟩ = false
  unaffected : Unaffected p

namespace Selects

/-- A listed kind selects elements: a plain start tag has a name outside all lists, and the kind
of an element is in its start tag. -/
theorem kind {k : Kind} (hk : k.isListed = true) : Selects fun e => e.kind == k where
  plain _ content hplain := by
    rw [beq_eq_false_iff_ne]
    exact hplain.kind_ne content hk
  unaffected _ _ _ _ _ := rfl

/-- So does a set of listed kinds, for the same reason. -/
theorem kindIn {p : Kind → Bool} (hp : ∀ k, p k = true → k.isListed = true) :
    Selects fun e => p e.kind where
  plain _ content hplain := by
    rw [Bool.eq_false_iff]
    intro hkind
    exact hplain.kind_ne content (hp _ hkind) rfl
  unaffected _ _ _ _ _ := rfl

/-- So do the names of a listed kind. Some rules search below an element by these names and not by
kind. -/
theorem named {k : Kind} (hk : k.isListed = true) : Selects fun e => k.tags.contains e.name where
  plain _ _ hplain := by
    rw [List.contains_eq_mem, decide_eq_false_iff_not]
    exact hplain.not_mem_tags hk
  unaffected _ _ _ _ _ := rfl

/-- So does being a declaration of a variable, which a plain element is not. -/
theorem declaresVariable : Selects Document.declaresVariable where
  plain _ content hplain := hplain.declaresVariable content
  unaffected _ _ _ _ _ := rfl

end Selects

variable {content content' : List Node} (h : Wraps content content')
include h

/-- What is found in all elements is found once some of them are wrapped, if nothing is found in
plain elements. The induction is on how the wrappers were put; at a wrapper the first find is
none, and the rest is that of what it contains. -/
theorem flatMap_elementsOf_wraps {f : Element → List β}
    (hplain : ∀ head content, head.IsPlain → f ⟨head, content⟩ = []) (hf : Unaffected f) :
    (elementsOf content').flatMap f = (elementsOf content).flatMap f := by
  induction h with
  | nil => rfl
  | text s _ ih => simpa using ih
  | aside _ ih => simpa using ih
  | element head scope hcontent _ ihcontent ihrest =>
      simp [hf head scope hcontent, ihcontent, ihrest]
  | @wrapper w hw head content inner rest rest' _ _ ihinner ihrest =>
      -- The wrapper comes first and is passed over; then comes what it contains.
      have hwrapper : f ⟨w, [inner]⟩ = [] := hplain w [inner] hw
      have hinner : inner.elements.flatMap f
          = f ⟨head, content⟩ ++ (elementsOf content).flatMap f := by simpa using ihinner
      simp [hwrapper, hinner, ihrest]

/-- At most one find in each element that passes a test. This and the next lemmas put the shapes
of rules into the general form above. -/
theorem filterMap_filter_wraps {p : Element → Bool} (hp : Selects p) {f : Element → Option β}
    (hf : Unaffected f) :
    ((elementsOf content').filter p).filterMap f = ((elementsOf content).filter p).filterMap f := by
  rw [List.filterMap_filter, List.filterMap_filter, List.filterMap_eq_flatMap_toList,
    List.filterMap_eq_flatMap_toList]
  refine flatMap_elementsOf_wraps h ?_ ?_
  · intro head content hplain
    rw [hp.plain head content hplain]
    rfl
  · intro head scope content content' hwraps
    simp only [hp.unaffected head scope hwraps, hf head scope hwraps]

/-- One find in each element that passes a test: the case in which every element that passes is
reported. -/
theorem map_filter_wraps {p : Element → Bool} (hp : Selects p) {f : Element → β}
    (hf : Unaffected f) :
    ((elementsOf content').filter p).map f = ((elementsOf content).filter p).map f := by
  -- To report every one is to report each with `some`.
  rw [← List.filterMap_eq_map]
  refine filterMap_filter_wraps h hp ?_
  intro head scope content content' hwraps
  exact congrArg some (hf head scope hwraps)

/-- One find in each element that passes a test and then another one. Only the first test has to
reject plain elements. -/
theorem map_filter_filter_wraps {p q : Element → Bool} (hp : Selects p) (hq : Unaffected q)
    {f : Element → β} (hf : Unaffected f) :
    (((elementsOf content').filter p).filter q).map f
      = (((elementsOf content).filter p).filter q).map f := by
  -- Both tests together select elements as the first one does.
  have hboth : Selects fun e => q e && p e := by
    refine ⟨fun head content hplain => ?_, fun head scope content content' hwraps => ?_⟩
    · rw [hp.plain head content hplain, Bool.and_false]
    · rw [hp.unaffected head scope hwraps, hq head scope hwraps]
  rw [List.filter_filter, List.filter_filter]
  exact map_filter_wraps h hboth hf

/-- How many elements pass a test. As many names are found in both contents, so there are as many
elements. -/
theorem length_filter_wraps {p : Element → Bool} (hp : Selects p) :
    ((elementsOf content').filter p).length = ((elementsOf content).filter p).length := by
  -- Any function of the start tag would do to tell how many there are.
  have hnames : ((elementsOf content').filter p).map Element.name
      = ((elementsOf content).filter p).map Element.name :=
    map_filter_wraps h hp fun _ _ _ _ _ => rfl
  simpa using congrArg List.length hnames

end

/-- How many elements of a kind are below an element: the wrappers below it do not count, and
nothing that counts is lost. -/
theorem unaffected_length_belowNamed {k : Kind} (hk : k.isListed = true) :
    Unaffected fun e => (e.belowNamed k.tags).length := by
  intro head scope content content' hwraps
  exact length_filter_wraps hwraps (.named hk)

/-- Whether there is none. It is what rules ask that miss something below an element. -/
theorem unaffected_isEmpty_belowNamed {k : Kind} (hk : k.isListed = true) :
    Unaffected fun e => (e.belowNamed k.tags).isEmpty := by
  intro head scope content content' hwraps
  have hlength := unaffected_length_belowNamed hk head scope hwraps
  simp only at hlength ⊢
  rw [Bool.eq_iff_iff, List.isEmpty_iff_length_eq_zero, List.isEmpty_iff_length_eq_zero, hlength]

end Xml

/-! ### Documents -/

open Xml

/-- A document, and the same with plain start tags around some elements below the root.
The text and the path are free. -/
structure Document.Wraps (d d' : Document) : Prop where
  head : d'.root.head = d.root.head
  content : Xml.Wraps d.root.content d'.root.content

namespace Document

variable {d d' : Document} (h : d.Wraps d')
include h

/-- The elements of a document are those of a content with the root element alone. The root is
never wrapped, but as part of this content it is treated as the other elements are. -/
theorem Wraps.nodes : Xml.Wraps [d.root.node] [d'.root.node] := by
  rw [Element.node, Element.node, h.head]
  exact .element d.root.head d.root.head.scope h.content .nil

/-- As many elements of a listed kind are in the document once elements are wrapped. -/
theorem countKind_wraps {k : Kind} (hk : k.isListed = true) : d'.countKind k = d.countKind k :=
  length_filter_wraps h.nodes (.kind hk)

/-- There are activities after wrapping exactly if there were some before. Their number may have
grown, which is why a rule that counts all of them is not among those below. -/
theorem isEmpty_activities_wraps : d'.activities.isEmpty = d.activities.isEmpty := by
  rw [activities, activities, List.isEmpty_map, List.isEmpty_map]
  exact h.content.isEmpty_elementsOf

end Document

/-! ### Rules -/

namespace Rule

section
variable {d d' : Document} (h : d.Wraps d') (t : Thresholds)
include h

/-- Containers are counted among the activities, so below the root. Wrappers are no containers,
since these kinds are listed. -/
theorem containerCount_wraps : containerCount (.of d' t) = containerCount (.of d t) := by
  show ((d'.root.below.map _).filter _).length = ((d.root.below.map _).filter _).length
  rw [List.filter_map, List.filter_map, List.length_map, List.length_map]
  exact length_filter_wraps h.content (.kindIn fun _ => Kind.isListed_of_passes fun _ => rfl)

/-- The rule compares handlers with containers, and wrapping adds neither, as the wrapper is of no
listed kind. -/
theorem sparseErrorHandling_wraps :
    sparseErrorHandling (.of d' t) = sparseErrorHandling (.of d t) := by
  rw [sparseErrorHandling, sparseErrorHandling, containerCount_wraps h, Subject.of, Subject.of,
    Document.countKind_wraps h rfl]

/-- No delay is added, and whether there are activities at all stays the same. -/
theorem noDelays_wraps : noDelays (.of d' t) = noDelays (.of d t) := by
  rw [noDelays, noDelays, Subject.of, Subject.of, Facts.ofDocument, Facts.ofDocument,
    Document.countKind_wraps h rfl, Document.isEmpty_activities_wraps h]

/-- The rule wants log messages where there are activities, whatever the number of these is. -/
theorem logVolume_wraps : logVolume (.of d' t) = logVolume (.of d t) := by
  rw [logVolume, logVolume, Subject.of, Subject.of, Facts.ofDocument, Facts.ofDocument,
    Document.countKind_wraps h rfl, Document.isEmpty_activities_wraps h]

/-- The first workbook scope below a loop is the same, at whatever depth it is. The list of all
scopes below is, so its head is too. -/
theorem scopeInLoop_wraps : scopeInLoop (.of d' t) = scopeInLoop (.of d t) := by
  refine filterMap_filter_wraps h.nodes (.kind rfl) ?_
  intro head scope content content' hwraps
  -- The issue is made from the scope, so the map goes inside the choice of the first.
  simp only [← List.head?_map]
  exact congrArg List.head? (map_filter_wraps hwraps
    (.kindIn fun _ => Kind.isListed_of_passes fun _ => rfl) fun _ _ _ _ _ => rfl)

/-- A loop is reported if no handler is below it. A wrapper between the two does not hide the
handler. -/
theorem loopErrorHandling_wraps :
    loopErrorHandling (.of d' t) = loopErrorHandling (.of d t) :=
  map_filter_filter_wraps h.nodes (.kind rfl) (unaffected_isEmpty_belowNamed rfl)
    fun _ _ _ _ _ => rfl

/-- A scope inside another one is found through any number of wrappers. -/
theorem nestedScopes_wraps : nestedScopes (.of d' t) = nestedScopes (.of d t) := by
  refine map_filter_filter_wraps h.nodes (.kind rfl) ?_ fun _ _ _ _ _ => rfl
  intro head scope content content' hwraps
  exact congrArg Bool.not (unaffected_isEmpty_belowNamed rfl head scope hwraps)

/-- The number of log messages below a loop is the same, so it is on the same side of the
threshold and is reported with the same text. -/
theorem loopLogging_wraps : loopLogging (.of d' t) = loopLogging (.of d t) := by
  refine filterMap_filter_wraps h.nodes (.kind rfl) ?_
  intro head scope content content' hwraps
  have hlength : (Element.belowNamed ⟨{ head with scope := scope }, content'⟩
      Kind.logMessage.tags).length = (Element.belowNamed ⟨head, content⟩
      Kind.logMessage.tags).length :=
    unaffected_length_belowNamed rfl head scope hwraps
  simp only [hlength]
  rfl

/-- The rules on workbooks look at each element that names one, and at its path. A plain element
has no attributes and names no workbook. -/
theorem flatMap_workbookPaths_wraps {f : Element × String → List Issue}
    (hf : ∀ path, Unaffected fun e => f (e, path)) :
    (workbookPaths d').flatMap f = (workbookPaths d).flatMap f := by
  rw [workbookPaths, workbookPaths, List.filterMap_eq_flatMap_toList,
    List.filterMap_eq_flatMap_toList, List.flatMap_assoc, List.flatMap_assoc]
  refine flatMap_elementsOf_wraps h.nodes ?_ ?_
  · intro head content hplain
    rw [hplain.attr? content]
    rfl
  · intro head scope content content' hwraps
    have hattr : (⟨{ head with scope := scope }, content'⟩ : Element).attr? "WorkbookPath"
        = (⟨head, content⟩ : Element).attr? "WorkbookPath" := rfl
    simp only [hattr]
    cases (⟨head, content⟩ : Element).attr? "WorkbookPath" with
    | none => rfl
    | some path => simpa using hf path head scope hwraps

/-- Paths that are absolute are reported with the place of the element that names them, and both
stay. -/
theorem hardcodedPaths_wraps : hardcodedPaths (.of d' t) = hardcodedPaths (.of d t) := by
  show ((workbookPaths d').filter _).map _ = ((workbookPaths d).filter _).map _
  rw [← List.filterMap_eq_map, List.filterMap_filter, List.filterMap_filter,
    List.filterMap_eq_flatMap_toList, List.filterMap_eq_flatMap_toList]
  exact flatMap_workbookPaths_wraps h fun path _ _ _ _ _ => rfl

/-- Misspellings are looked for in each path, several in one if there are. -/
theorem knownMisspellings_wraps :
    knownMisspellings (.of d' t) = knownMisspellings (.of d t) :=
  flatMap_workbookPaths_wraps h fun _ _ _ _ _ _ => rfl

/-- The declarations of variables are the same list of names, each with its place, before and
after. -/
theorem variableNaming_wraps : variableNaming (.of d' t) = variableNaming (.of d t) := by
  rw [variableNaming_of d' t "", variableNaming_of d t ""]
  show ((d'.declarations.map _).filter _).map _ = ((d.declarations.map _).filter _).map _
  rw [List.filter_map, List.map_map, List.filter_map, List.map_map]
  exact map_filter_filter_wraps h.nodes .declaresVariable (fun _ _ _ _ _ => rfl)
    fun _ _ _ _ _ => rfl

end

/-- The rules that look for elements at any depth, or count elements of some kind. -/
def depthless : List String :=
  ["ERR-002", "XL-001", "XL-002", "WEB-001", "WEB-002", "LOOP-001", "LOOP-002", "SEL-001",
   "SEL-002", "TIME-001", "LOG-001", "PATH-001", "PATH-002", "MAINT-002"]

/-- Elements may be wrapped unnoticed. Every element below the root can be put into a
wrapper with a plain start tag that contains just this element, and nothing else changes.
However this is done, once or several times, each rule that looks for elements at any
depth reports exactly the same issues, whatever the thresholds. -/
theorem issues_wraps (d : Document) :
    (∀ e ∈ d.root.below, ∀ w : Head, w.IsPlain →
      ∃ d', d.Wraps d' ∧ ⟨w, [e.node]⟩ ∈ d'.root.below ∧
        d'.root.below.length = d.root.below.length + 1) ∧
    ∀ d', d.Wraps d' → ∀ t, ∀ r ∈ catalogue, r.id ∈ depthless →
      r.issues (.of d' t) = r.issues (.of d t) := by
  refine ⟨fun e he w hw => ?_, fun d' h t => ?_⟩
  -- The root keeps its start tag and gets the content with one wrapper more.
  · obtain ⟨content, hwraps, hmem, hlength⟩ := Xml.Wraps.exists_of_mem hw he
    exact ⟨⟨d.file, d.source, ⟨d.root.head, content⟩⟩, ⟨rfl, hwraps⟩, hmem, hlength⟩
  · simp only [catalogue, List.forall_mem_cons, List.not_mem_nil, false_implies, implies_true,
      and_true]
    refine ⟨fun hid => absurd hid (by decide), fun _ => sparseErrorHandling_wraps h t,
      fun _ => scopeInLoop_wraps h t, fun _ => ?_, fun _ => nestedScopes_wraps h t, fun _ => ?_,
      fun hid => absurd hid (by decide), fun _ => loopErrorHandling_wraps h t,
      fun _ => loopLogging_wraps h t, fun _ => ?_, fun _ => ?_, fun _ => noDelays_wraps h t,
      fun _ => logVolume_wraps h t, fun _ => hardcodedPaths_wraps h t,
      fun _ => knownMisspellings_wraps h t, fun hid => absurd hid (by decide),
      fun _ => variableNaming_wraps h t, fun hid => absurd hid (by decide),
      fun hid => absurd hid (by decide), fun hid => absurd hid (by decide),
      fun hid => absurd hid (by decide), fun hid => absurd hid (by decide),
      fun hid => absurd hid (by decide)⟩
    -- The remaining four rules look at the start tags of elements of a kind.
    · exact map_filter_filter_wraps h.nodes (.kind rfl) (fun _ _ _ _ _ => rfl) fun _ _ _ _ _ => rfl
    · exact map_filter_filter_wraps h.nodes (.kind rfl) (fun _ _ _ _ _ => rfl) fun _ _ _ _ _ => rfl
    · exact filterMap_filter_wraps h.nodes (.kind rfl) fun _ _ _ _ _ => rfl
    · exact map_filter_filter_wraps h.nodes (.kind rfl) (fun _ _ _ _ _ => rfl) fun _ _ _ _ _ => rfl

/-- A workbook opened in a loop over rows, and the same inside a group. The blanks in the first
text keep the workbook where it is in the second. The two rules on loops see it in both. -/
theorem issues_wraps_group :
    let document (source : String) (content : List Node) : Document :=
      ⟨"Main.xaml", source, ⟨bareTag "Activity" 1, [.element (bareTag "ForEachRow" 11) content]⟩⟩
    let card : Element := ⟨bareTag "ExcelApplicationCard" 30, []⟩
    let group : Head := bareTag "Group" 23
    let d := document
      "<Activity><ForEachRow       ><ExcelApplicationCard/></ForEachRow></Activity>" [card.node]
    let d' := document
      "<Activity><ForEachRow><Group><ExcelApplicationCard/></Group></ForEachRow></Activity>"
      [.element group [card.node]]
    group.IsPlain ∧ card ∈ d.root.below ∧
      (∃ d', d.Wraps d' ∧ ⟨group, [card.node]⟩ ∈ d'.root.below ∧
        d'.root.below.length = d.root.below.length + 1) ∧
      d.Wraps d' ∧
      ∀ r ∈ catalogue, r.id ∈ depthless → r.issues (.of d' {}) = r.issues (.of d {}) := by
  intro document card group d d'
  have hgroup : group.IsPlain := ⟨⟨_, rfl⟩, by decide, rfl⟩
  have hcard : card ∈ d.root.below := by decide
  have hcontent : Xml.Wraps [card.node] [.element group [card.node]] :=
    .wrapper hgroup (.refl _) .nil
  have hwraps : d.Wraps d' := ⟨rfl, .element (bareTag "ForEachRow" 11) [] hcontent .nil⟩
  obtain ⟨hexists, hsame⟩ := issues_wraps d
  exact ⟨hgroup, hcard, hexists card hcard group hgroup, hwraps, hsame d' hwraps {}⟩

end Rule

end WorkflowLint
