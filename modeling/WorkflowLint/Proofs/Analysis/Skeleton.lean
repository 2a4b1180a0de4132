import Mathlib.Data.List.Nodup
import WorkflowLint.Proofs.RuleChoice
import WorkflowLint.Proofs.Xml.Skeleton

/-!
# `WorkflowLint.Proofs.Analysis.Skeleton`: an analysis sees elements only

Texts, comments and instructions in a workflow may be changed at will: as long as
the elements are the same, with the same attributes, namespaces and lines, so is
the analysis. `ofSource_skeleton` says so for every two texts whose documents have
the same skeleton.

There are two exceptions. Web addresses are looked for in string literals as well.
And the last rule, on unused variables, counts words in the whole text; its issues
are of low severity, which costs no points, so that even the score is the same
(`healthScore_filter`).

Each fact about a document is shown to be the one about its skeleton, and so are
the issues of each rule (`issues_skeleton`). Two documents with the same skeleton
then agree because they agree with it.
-/

set_option autoImplicit false

namespace WorkflowLint

open Xml

/-! ### Documents -/

namespace Document

/-- The skeleton of a document has no text, only elements. -/
def skeleton (d : Document) : Document := ⟨d.file, "", d.root.skeleton⟩

/-- The elements of the skeleton are the skeletons of the elements, in document order. Every
search of a document starts from this list, so the lemmas below rest on it. -/
@[simp] theorem skeleton_elements (d : Document) :
    d.skeleton.elements = d.elements.map Element.skeleton :=
  d.root.skeleton_withBelow

/-- A search by kind finds in the skeleton the skeletons of what it finds in the document, because
a kind is read off the tag and skeletons keep their tags. -/
@[simp] theorem skeleton_ofKind (d : Document) (k : Kind) :
    d.skeleton.ofKind k = (d.ofKind k).map Element.skeleton := by
  rw [ofKind, skeleton_elements, List.filter_map]
  rfl

/-- Counting elements of a kind does not see texts. The rules that only count, such as the one on
missing error handling, need no more than this. -/
@[simp] theorem skeleton_countKind (d : Document) (k : Kind) :
    d.skeleton.countKind k = d.countKind k := by
  rw [countKind, skeleton_ofKind, List.length_map]
  rfl

/-- The skeleton is nested as deeply as the document: depth is measured in elements, and none is
lost. -/
@[simp] theorem skeleton_depth (d : Document) : d.skeleton.depth = d.depth :=
  d.root.skeleton_depth

/-- The namespace of the markup language is the same in the skeleton, since namespaces are
collected from what is in scope at the elements. -/
theorem skeleton_xamlUri (d : Document) : d.skeleton.xamlUri = d.xamlUri := by
  have hnamespaces : d.skeleton.namespaces = d.namespaces := by
    rw [namespaces, skeleton_elements, List.foldl_map]
    rfl
  rw [xamlUri, hnamespaces]
  rfl

/-- The activities of the skeleton are those of the document. An activity is a tag, a name and
attributes, all of which a skeleton keeps. -/
theorem skeleton_activities (d : Document) : d.skeleton.activities = d.activities := by
  show d.root.skeleton.below.map activityOf = d.root.below.map activityOf
  rw [Element.skeleton_below, List.map_map]
  rfl

/-- The declared variables and arguments are found by tag, attributes and namespace; the text
inside a declaration plays no part. -/
theorem skeleton_declared (d : Document) : d.skeleton.declared = d.declared := by
  rw [declared, skeleton_xamlUri, skeleton_elements]
  exact map_filter_skeleton (fun _ => rfl) (fun _ => rfl) _

/-- Connections are read off the attributes of one kind of element, so the skeleton shows the same
ones in the same order. -/
theorem skeleton_connections (d : Document) : d.skeleton.connections = d.connections := by
  rw [connections, skeleton_ofKind, filterMap_skeleton fun _ => rfl]
  rfl

end Document

/-! ### Rules -/

/-- What rules may inspect of a skeleton: its elements and the facts of the document, without the
web addresses, which are no facts about elements. -/
def Subject.skeleton (s : Subject) : Subject :=
  ⟨s.document.skeleton, { s.facts with urls := .empty }, s.thresholds⟩

namespace Subject

variable {β : Type} (s : Subject) (k : Kind)

/-- Something about each element of a kind that passes a test is the same in the skeleton, if the
test and what is said are. Most rules on single elements have this shape. -/
theorem skeleton_map_filter_ofKind {p : Element → Bool} {f : Element → β}
    (hp : ∀ e, p e.skeleton = p e) (hf : ∀ e, f e.skeleton = f e) :
    ((s.skeleton.document.ofKind k).filter p).map f = ((s.document.ofKind k).filter p).map f := by
  rw [skeleton, Document.skeleton_ofKind, map_filter_skeleton hp hf]

/-- The same for rules that decide and report in one step, where the element that is blamed may be
another one than the element that is found. -/
theorem skeleton_filterMap_ofKind {f : Element → Option β} (hf : ∀ e, f e.skeleton = f e) :
    (s.skeleton.document.ofKind k).filterMap f = (s.document.ofKind k).filterMap f := by
  rw [skeleton, Document.skeleton_ofKind, filterMap_skeleton hf]

/-- The same for rules that may report several issues for one element, as those on the `Catch`
blocks of a `TryCatch` do. -/
theorem skeleton_flatMap_ofKind {f : Element → List β} (hf : ∀ e, f e.skeleton = f e) :
    (s.skeleton.document.ofKind k).flatMap f = (s.document.ofKind k).flatMap f := by
  rw [skeleton, Document.skeleton_ofKind, flatMap_skeleton hf]

end Subject

namespace Rule

variable (s : Subject)

/-- This rule compares the number of elements of one kind with the activities, and both are the
same in the skeleton. -/
theorem skeleton_missingErrorHandling :
    missingErrorHandling s.skeleton = missingErrorHandling s := by
  rw [missingErrorHandling, Subject.skeleton, Document.skeleton_countKind]
  rfl

/-- A ratio of two numbers that a skeleton keeps: handlers by kind, and activities. -/
theorem skeleton_sparseErrorHandling :
    sparseErrorHandling s.skeleton = sparseErrorHandling s := by
  rw [sparseErrorHandling, Subject.skeleton, Document.skeleton_countKind]
  rfl

/-- The rule asks whether there is a delay at all, and no delay is lost or gained with the texts. -/
theorem skeleton_noDelays : noDelays s.skeleton = noDelays s := by
  rw [noDelays, Subject.skeleton, Document.skeleton_countKind]
  rfl

/-- Log messages are counted by kind and measured against the number of activities, so that the
texts around them do not matter. -/
theorem skeleton_logVolume : logVolume s.skeleton = logVolume s := by
  rw [logVolume, Subject.skeleton, Document.skeleton_countKind]
  rfl

/-- The depth that the rule compares with its threshold is a depth in elements. -/
theorem skeleton_nestingDepth : nestingDepth s.skeleton = nestingDepth s := by
  rw [nestingDepth, Subject.skeleton, Document.skeleton_depth]
  rfl

/-- The rule blames the first scope below a loop. The first scope below the skeleton of the loop
is the skeleton of that scope and stands on the same line. -/
theorem skeleton_scopeInLoop : scopeInLoop s.skeleton = scopeInLoop s := by
  refine s.skeleton_filterMap_ofKind _ fun loop => ?_
  rw [Element.skeleton_belowOfKind, List.head?_map, Option.map_map]
  rfl

/-- Whether a handler stands below the loop is a question about elements; the search finds nothing
in the skeleton exactly if it finds nothing in the loop. -/
theorem skeleton_loopErrorHandling : loopErrorHandling s.skeleton = loopErrorHandling s := by
  refine s.skeleton_map_filter_ofKind _ (fun loop => ?_) fun _ => rfl
  rw [Element.skeleton_belowNamed, List.isEmpty_map]

/-- The rule counts log messages below each loop, and the skeleton of the loop has as many. -/
theorem skeleton_loopLogging : loopLogging s.skeleton = loopLogging s := by
  refine s.skeleton_filterMap_ofKind _ fun loop => ?_
  rw [Element.skeleton_belowNamed, List.length_map]
  rfl

/-- A scope is nested if the search by name below it finds something, which does not depend on the
texts between. -/
theorem skeleton_nestedScopes : nestedScopes s.skeleton = nestedScopes s := by
  refine s.skeleton_map_filter_ofKind _ (fun scope => ?_) fun _ => rfl
  rw [Element.skeleton_belowNamed, List.isEmpty_map]

/-- A click and the element that follows it have the addresses that they have in
the skeleton. -/
theorem skeleton_postClickDelay : postClickDelay s.skeleton = postClickDelay s := by
  have hroot : s.skeleton.document.root = s.document.root.skeleton := rfl
  simp only [postClickDelay, hroot, Element.skeleton_places, List.filterMap_map]
  refine congrArg (List.filterMap · _) (funext fun click => ?_)
  -- The next element of the skeleton is the skeleton of the next element, if any.
  have hnext : (nextAddress? click.address).bind s.document.root.skeleton.at?
      = ((nextAddress? click.address).bind s.document.root.at?).map Element.skeleton := by
    rw [Option.map_bind]
    exact congrArg _ (funext s.document.root.skeleton_at?)
  have hclick : isSlowClick click.skeleton.element = isSlowClick click.element := rfl
  have haddress : click.skeleton.address = click.address := rfl
  simp only [Function.comp_apply, hclick, haddress, hnext]
  cases (nextAddress? click.address).bind s.document.root.at? with
  | none => rfl
  | some next => rfl

/-- The workbooks of a document are attributes of elements. In the skeleton each is found on the
skeleton of its element, with the same path. -/
theorem skeleton_workbookPaths (d : Document) :
    workbookPaths d.skeleton = (workbookPaths d).map fun p => (p.1.skeleton, p.2) := by
  rw [workbookPaths, workbookPaths, Document.skeleton_elements, List.filterMap_map,
    List.map_filterMap]
  refine congrArg (List.filterMap · _) (funext fun e => ?_)
  rw [Function.comp_apply, Element.skeleton_attr?, Option.map_map]
  rfl

/-- The test for an absolute path reads the attribute and the report reads the line of the
element; the skeleton has both. -/
theorem skeleton_hardcodedPaths : hardcodedPaths s.skeleton = hardcodedPaths s := by
  rw [hardcodedPaths, Subject.skeleton, skeleton_workbookPaths, List.filter_map, List.map_map]
  rfl

/-- Misspellings are looked for in the workbook paths, so they are found in the skeleton as well. -/
theorem skeleton_knownMisspellings : knownMisspellings s.skeleton = knownMisspellings s := by
  rw [knownMisspellings, Subject.skeleton, skeleton_workbookPaths, List.flatMap_map]
  rfl

/-- The `Catch` blocks of a handler are the children of one of its parts. If the part is missing
there are none, in the skeleton as in the document. -/
theorem skeleton_catchChildren (handler : Element) :
    catchChildren handler.skeleton = (catchChildren handler).map Element.skeleton := by
  rw [catchChildren, catchChildren, Element.skeleton_child?]
  cases handler.child? "TryCatch.Catches" with
  | none => rfl
  | some part => exact part.skeleton_children

/-- The rule looks through the log messages below each block for one of a low level. The search
and the test are both about elements with their attributes. -/
theorem skeleton_catchLogLevel : catchLogLevel s.skeleton = catchLogLevel s := by
  refine s.skeleton_flatMap_ofKind _ fun handler => ?_
  rw [skeleton_catchChildren, List.filter_map, flatMap_skeleton]
  · rfl
  -- The test and the log messages of one block are compared.
  · intro block
    rw [Element.skeleton_belowNamed, map_filter_skeleton (fun _ => rfl) fun _ => rfl]

/-- The `Try` part has no child element in the skeleton exactly if it has none in the document. A
text in it is not a child element to the rule either. -/
theorem skeleton_emptyTry : emptyTry s.skeleton = emptyTry s := by
  refine s.skeleton_map_filter_ofKind _ (fun handler => ?_) fun _ => rfl
  rw [Element.skeleton_child?, Option.all_map]
  simp only [Element.skeleton_children, List.isEmpty_map]

/-- Whether a `Catch` does nothing depends on its action and on what elements stand below that, so
the test gives the same answer for the skeleton. -/
theorem skeleton_isEmptyCatch (block : Element) :
    isEmptyCatch block.skeleton = isEmptyCatch block := by
  rw [isEmptyCatch, Element.skeleton_child?, Option.all_map]
  simp only [Element.skeleton_isHollow]
  rfl

/-- With the test on a single block settled, the rule reports the same blocks of each handler. -/
theorem skeleton_emptyCatch : emptyCatch s.skeleton = emptyCatch s := by
  refine s.skeleton_flatMap_ofKind _ fun handler => ?_
  rw [skeleton_catchChildren, map_filter_skeleton skeleton_isEmptyCatch fun _ => rfl]
  rfl

/-- A branch is hollow, or missing, in the skeleton exactly if it is in the document, so the same
conditions are reported. -/
theorem skeleton_emptyThen : emptyThen s.skeleton = emptyThen s := by
  refine s.skeleton_map_filter_ofKind _ (fun branch => ?_) fun _ => rfl
  rw [Element.skeleton_child?, Option.all_map]
  simp only [Element.skeleton_isHollow]

/-- This rule asks for the absence of child elements only, and skeletons have the same child
elements. -/
theorem skeleton_emptyElse : emptyElse s.skeleton = emptyElse s := by
  refine s.skeleton_map_filter_ofKind _ (fun branch => ?_) fun _ => rfl
  rw [Element.skeleton_child?, Option.any_map]
  simp only [Element.skeleton_children, List.isEmpty_map]

/-- Every rule but the last reports on the skeleton what it reports on the document. The rules
that are not listed above look at attributes only, or at the declared variables, and there both
sides are the same by computation. -/
theorem issues_skeleton :
    ∀ r ∈ catalogue, r.id ≠ "LOGIC-005" → r.issues s.skeleton = r.issues s := by
  simp only [catalogue, List.forall_mem_cons, List.not_mem_nil, false_implies, implies_true,
    and_true]
  exact ⟨fun _ => skeleton_missingErrorHandling s, fun _ => skeleton_sparseErrorHandling s,
    fun _ => skeleton_scopeInLoop s,
    fun _ => s.skeleton_map_filter_ofKind _ (fun _ => rfl) fun _ => rfl,
    fun _ => skeleton_nestedScopes s,
    fun _ => s.skeleton_map_filter_ofKind _ (fun _ => rfl) fun _ => rfl,
    fun _ => skeleton_postClickDelay s, fun _ => skeleton_loopErrorHandling s,
    fun _ => skeleton_loopLogging s, fun _ => s.skeleton_filterMap_ofKind _ fun _ => rfl,
    fun _ => s.skeleton_map_filter_ofKind _ (fun _ => rfl) fun _ => rfl,
    fun _ => skeleton_noDelays s, fun _ => skeleton_logVolume s,
    fun _ => skeleton_hardcodedPaths s, fun _ => skeleton_knownMisspellings s,
    fun _ => skeleton_nestingDepth s, fun _ => rfl, fun _ => skeleton_catchLogLevel s,
    fun _ => skeleton_emptyTry s, fun _ => skeleton_emptyCatch s,
    fun _ => skeleton_emptyThen s, fun _ => skeleton_emptyElse s, fun h => absurd rfl h⟩

/-- The issues of the last rule are of low severity. Its identifier alone is enough to know that
an issue is one of them, because identifiers are distinct. -/
theorem severity_of_id {r : Rule} (hr : r ∈ catalogue) (hid : r.id = "LOGIC-005") :
    ∀ i ∈ r.issues s, i.severity = .low := by
  have hlast : (⟨"LOGIC-005", "Unused variable", unusedVariables⟩ : Rule) ∈ catalogue := by
    simp [catalogue]
  -- Identifiers are distinct, so there is only one rule with this one.
  obtain rfl := List.inj_on_of_nodup_map nodup_ids hr hlast hid
  intro i hi
  obtain ⟨v, _, rfl⟩ := List.mem_map.mp hi
  rfl

end Rule

/-! ### Issues -/

/-- The issues of all rules but the last one. -/
def seen (issues : List Issue) : List Issue := issues.filter fun i => i.rule ≠ "LOGIC-005"

namespace Subject

/-- On the skeleton the same issues are seen as on the document, under any configuration: rules
are chosen by identifier, and each one that is left reports the same. -/
theorem seen_issues_skeleton (s : Subject) (c : Config) :
    seen (s.skeleton.issues c) = seen (s.issues c) := by
  have hmem : ∀ r ∈ Rule.catalogue.filter fun r => c.enables r.id, r ∈ Rule.catalogue :=
    fun r hr => (List.mem_filter.mp hr).1
  have hown (t : Subject) : seen (t.issues c)
      = ((Rule.catalogue.filter fun r => c.enables r.id).filter
          fun r => r.id ≠ "LOGIC-005").flatMap (·.issues t) :=
    (flatMap_issues_filter t (fun id => id ≠ "LOGIC-005")
      fun r hr => Rule.labelled_of_mem_catalogue t r (hmem r hr)).symm
  -- Without the last rule, each rule that is chosen reports the same.
  rw [hown, hown]
  -- The condition on the identifier is what excludes the one rule that reads the text.
  refine List.flatMap_congr fun r hr => ?_
  obtain ⟨hr, hid⟩ := List.mem_filter.mp hr
  exact Rule.issues_skeleton s r (hmem r hr) (of_decide_eq_true hid)

/-- The score is that of the issues that are seen. What is left out is of low severity and costs
no points. -/
theorem healthScore_seen (s : Subject) (c : Config) :
    healthScore (seen (s.issues c)) = healthScore (s.issues c) := by
  refine healthScore_filter fun i hi hlast => ?_
  -- What is left out carries the identifier of the last rule, so it is an issue of that rule.
  have hid : i.rule = "LOGIC-005" := by simpa using hlast
  obtain ⟨r, hr, hi⟩ := List.mem_flatMap.mp hi
  have hmem := (List.mem_filter.mp hr).1
  rw [Rule.labelled_of_mem_catalogue s r hmem i hi] at hid
  rw [Rule.severity_of_id s hmem hid i hi]
  rfl

end Subject

/-! ### Analyses -/

/-- Documents with the same skeleton look the same to all rules but the last. The facts that the
subject carries agree because each of them is the fact of the skeleton. -/
theorem Subject.skeleton_of {d e : Document} (h : d.skeleton = e.skeleton) (t : Thresholds) :
    (Subject.of d t).skeleton = (Subject.of e t).skeleton := by
  have hactivities : d.activities = e.activities := by
    rw [← d.skeleton_activities, h, e.skeleton_activities]
  have hdeclared : d.declared = e.declared := by
    rw [← d.skeleton_declared, h, e.skeleton_declared]
  have hconnections : d.connections = e.connections := by
    rw [← d.skeleton_connections, h, e.skeleton_connections]
  simp only [Subject.skeleton, Subject.of, Facts.ofDocument, h, hactivities, hdeclared,
    hconnections]

namespace Analysis

/-- Documents with the same skeleton have the same analysis, but for the web
addresses and for the issues of the last rule. -/
theorem ofDocument_skeleton {d e : Document} (h : d.skeleton = e.skeleton) (p : Project)
    (c : Config) :
    { ofDocument d p c with urls := (ofDocument e p c).urls, issues := (ofDocument e p c).issues }
        = ofDocument e p c ∧
      seen (ofDocument d p c).issues = seen (ofDocument e p c).issues := by
  have hsubject := Subject.skeleton_of h c.thresholds
  have hseen : seen ((Subject.of d c.thresholds).issues c)
      = seen ((Subject.of e c.thresholds).issues c) := by
    rw [← Subject.seen_issues_skeleton, hsubject, Subject.seen_issues_skeleton]
  have hscore : WorkflowLint.healthScore ((Subject.of d c.thresholds).issues c)
      = WorkflowLint.healthScore ((Subject.of e c.thresholds).issues c) := by
    rw [← Subject.healthScore_seen, hseen, Subject.healthScore_seen]
  have hfile : d.file = e.file := congrArg (·.document.file) hsubject
  have hactivities : d.activities = e.activities := congrArg (·.facts.activities) hsubject
  have hdeclared : d.declared = e.declared := congrArg (·.facts.declared) hsubject
  have hconnections : d.connections = e.connections := congrArg (·.facts.connections) hsubject
  refine ⟨?_, hseen⟩
  -- All other fields are functions of these facts and of the project.
  simp only [Subject.of] at hscore
  simp only [ofDocument, hscore]
  simp only [Facts.ofDocument, Facts.components, hfile, hactivities, hdeclared, hconnections]

/-- Only the skeleton counts. Take two texts that are documents with the same
skeleton. Both have an analysis, under the same path, project and configuration,
and the analyses agree in all fields but the web addresses and the issues. The
issues agree as well, once those on unused variables are left out. The scores are
the same without exception. -/
theorem ofSource_skeleton {source source' : String} {root root' : Element}
    (hread : Xml.read source = .ok root) (hread' : Xml.read source' = .ok root')
    (hskeleton : root.skeleton = root'.skeleton) (file : String) (p : Project) (c : Config) :
    ∃ a b, ofSource source file p c = .ok a ∧ ofSource source' file p c = .ok b ∧
      { a with urls := b.urls, issues := b.issues } = b ∧
      (a.issues.filter fun i => i.rule ≠ "LOGIC-005")
        = (b.issues.filter fun i => i.rule ≠ "LOGIC-005") ∧
      a.healthScore = b.healthScore := by
  -- Both texts are documents, so neither analysis can fail.
  have hdocument : Document.read source file = .ok ⟨file, source, root⟩ := by
    rw [Document.read, hread]
    rfl
  have hdocument' : Document.read source' file = .ok ⟨file, source', root'⟩ := by
    rw [Document.read, hread']
    rfl
  have hsame : Document.skeleton ⟨file, source, root⟩ = Document.skeleton ⟨file, source', root'⟩ :=
    congrArg (Document.mk file "") hskeleton
  obtain ⟨hfields, hissues⟩ := ofDocument_skeleton hsame p c
  have hscore := congrArg Analysis.healthScore hfields
  exact ⟨_, _, ofSource_eq_ok hdocument p c, ofSource_eq_ok hdocument' p c, hfields, hissues,
    hscore⟩

/-- A workflow with texts, comments and instructions in many places, among them a web address in a
string literal. -/
def wordy : String :=
  "<!--a--><Activity>n<Variable Name=\"n\"/><![CDATA[<a>]]><String>http://b</String><?c?></Activity>"

/-- The same workflow without them. Both stand on one line, so the elements begin on the same
lines as well. -/
def terse : String := "<Activity><Variable Name=\"n\"/><String/></Activity>"

/-- The two workflows have the same skeleton and thus the same score. -/
theorem ofSource_skeleton_wordy :
    ∃ root root' a b, Xml.read wordy = .ok root ∧ Xml.read terse = .ok root' ∧
      root.skeleton = root'.skeleton ∧
      ofSource wordy "Main.xaml" {} {} = .ok a ∧ ofSource terse "Main.xaml" {} {} = .ok b ∧
      { a with urls := b.urls, issues := b.issues } = b ∧
      (a.issues.filter fun i => i.rule ≠ "LOGIC-005")
        = (b.issues.filter fun i => i.rule ≠ "LOGIC-005") ∧
      a.healthScore = b.healthScore := by
  obtain ⟨root, hread⟩ := exists_eq_ok (by decide +kernel : (Xml.read wordy).isOk = true)
  obtain ⟨root', hread'⟩ := exists_eq_ok (by decide +kernel : (Xml.read terse).isOk = true)
  have hskeleton : root.skeleton = root'.skeleton := by
    -- Comparing the two readings at once keeps the trees themselves out of the statement.
    have hboth : (Xml.read wordy).toOption.map Element.skeleton
        = (Xml.read terse).toOption.map Element.skeleton := by decide +kernel
    rw [hread, hread'] at hboth
    exact Option.some.inj hboth
  obtain ⟨a, b, ha, hb, hagree⟩ := ofSource_skeleton hread hread' hskeleton "Main.xaml" {} {}
  exact ⟨root, root', a, b, hread, hread', hskeleton, ha, hb, hagree⟩

end Analysis

end WorkflowLint
