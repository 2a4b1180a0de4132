import Mathlib.Data.List.Find
import Mathlib.Data.List.Forall2
import Mathlib.Data.List.Pairwise
import WorkflowLint.Facts
import WorkflowLint.Proofs.RuleChoice
import WorkflowLint.Proofs.Sorted
import WorkflowLint.Proofs.Xml.Lawful

/-!
# `WorkflowLint.Proofs.Activity`: what activities say of their elements

A document has an activity for every element below its root element. `Describes` says what an
activity tells about its element, in terms of the element's tag and attributes alone.

Attributes can be asked for in two ways. An element is asked for an attribute without a namespace,
and the first one with the name answers. An activity has a table with one entry for each name,
whatever the namespaces, and of attributes with the same name the last one counts. The rules ask
the elements and the recommendations ask the activities. Where attributes of a name have no
namespace, there is one of them at most, because the reader refuses two, and then both ways give
the same answer (`readsAlike_activityOf`). With namespaces they can differ: `namedTwice` is a
document where they do.
-/

set_option autoImplicit false

namespace WorkflowLint

open Xml

/-! ### What is said of an activity -/

/-- An activity describes an element. -/
structure Describes (a : Activity) (e : Element) : Prop where
  tag : a.tag = e.name
  /-- The name is the one that people gave the element. -/
  named : ∀ x ∈ e.head.attributes, x.ns = none → x.name = "DisplayName" → a.name = x.value
  unnamed : (∀ x ∈ e.head.attributes, x.ns = none → x.name ≠ "DisplayName") → a.name = "Unknown"
  /-- There is one entry for each name of an attribute. -/
  entries : ∀ name, name ∈ a.attributes.keys ↔ ∃ x ∈ e.head.attributes, x.name = name
  once : a.attributes.keys.Pairwise (· < ·)
  /-- The last attribute with a name counts. -/
  last : ∀ front x back, e.head.attributes = front ++ x :: back →
    (∀ y ∈ back, y.name ≠ x.name) → a.attributes.get? x.name = some x.value

/-- An activity and its element give the same answer when asked for an attribute, for every name
that no attribute has in a namespace. -/
def ReadsAlike (a : Activity) (e : Element) : Prop :=
  ∀ name, (∀ x ∈ e.head.attributes, x.name = name → x.ns = none) →
    a.attributes.get? name = e.attr? name

/-! ### Asking elements and activities -/

/-- A search from the back finds the same as one from the front, where at most one member can
be found. -/
theorem find?_reverse_of_pairwise {α : Type} {p : α → Bool} {l : List α}
    (h : l.Pairwise fun a b => ¬(p a = true ∧ p b = true)) : l.reverse.find? p = l.find? p := by
  induction l with
  | nil => rfl
  | cons x rest ih =>
    obtain ⟨hx, hrest⟩ := List.pairwise_cons.mp h
    rw [List.reverse_cons, List.find?_append, ih hrest]
    cases hp : p x with
    | false => simp [hp]
    | true =>
      -- Nothing else can be found, so the two ends of the search meet.
      have hnone : rest.find? p = none :=
        List.find?_eq_none.mpr fun y hy hpy => hx y hy ⟨hp, hpy⟩
      simp [hp, hnone]

/-- An activity's table holds the value of the last attribute with a name, since later entries
replace earlier ones. -/
theorem get?_attributes (e : Element) (name : String) :
    (Document.activityOf e).attributes.get? name
      = (e.head.attributes.reverse.find? fun x => x.name == name).map (·.value) := by
  show (Table.ofList (e.head.attributes.map fun x => (x.name, x.value))).get? name = _
  rw [Table.get?_ofList, ← List.map_reverse, List.find?_map, Option.map_map]
  rfl

/-- The value of an attribute is that of the last one with its name, given by what stands in front
of it and behind it. -/
theorem get?_attributes_of_last {e : Element} {front back : List Attribute} {x : Attribute}
    (hsplit : e.head.attributes = front ++ x :: back) (hback : ∀ y ∈ back, y.name ≠ x.name) :
    (Document.activityOf e).attributes.get? x.name = some x.value := by
  have hnone : back.reverse.find? (fun y => y.name == x.name) = none := by
    rw [List.find?_eq_none]
    intro y hy
    simpa using hback y (List.mem_reverse.mp hy)
  rw [get?_attributes, hsplit]
  simp [hnone]

/-- An attribute is told by its name and its namespace, in a list where no two share both. -/
theorem eq_of_distinctNames {attributes : List Attribute} (h : DistinctNames attributes)
    {x y : Attribute} (hx : x ∈ attributes) (hy : y ∈ attributes) (hns : x.ns = y.ns)
    (hname : x.name = y.name) : x = y := by
  have hsymm : Std.Symm fun a b : Attribute => ¬(a.ns = b.ns ∧ a.name = b.name) :=
    ⟨fun a b hab hba => hab ⟨hba.1.symm, hba.2.symm⟩⟩
  by_contra hne
  exact List.Pairwise.forall h hx hy hne ⟨hns, hname⟩

section
variable {e : Element} (h : DistinctNames e.head.attributes)
include h

/-- Where names are distinct, an attribute without a namespace is found by its name. -/
theorem attr?_of_mem {x : Attribute} (hx : x ∈ e.head.attributes) (hns : x.ns = none) :
    e.attr? x.name = some x.value := by
  rw [Element.attr?, Option.map_eq_some_iff]
  have hsome : (e.head.attributes.find? fun y => y.ns.isNone && y.name == x.name).isSome := by
    rw [List.find?_isSome]
    exact ⟨x, hx, by simp [hns]⟩
  obtain ⟨y, hy⟩ := Option.isSome_iff_exists.mp hsome
  have hfound : y.ns = none ∧ y.name = x.name := by simpa using List.find?_some hy
  -- The one that is found has the same name in the same namespace, so it is no other one.
  obtain rfl : y = x := eq_of_distinctNames h (List.mem_of_find?_eq_some hy) hx
    (hfound.1.trans hns.symm) hfound.2
  exact ⟨y, hy, rfl⟩

/-- The activity made from an element describes it, provided that the attributes are distinct: the
name is taken from the first one called `DisplayName` and the table from all of them. -/
theorem describes_activityOf : Describes (Document.activityOf e) e where
  tag := rfl
  named := by
    intro x hx hns hname
    have hvalue := attr?_of_mem h hx hns
    rw [hname] at hvalue
    show (e.attr? "DisplayName").getD unknown = x.value
    rw [hvalue]
    rfl
  unnamed := by
    intro hnone
    have hattr : e.attr? "DisplayName" = none := by
      rw [Element.attr?, Option.map_eq_none_iff, List.find?_eq_none]
      intro x hx hfound
      have hboth : x.ns = none ∧ x.name = "DisplayName" := by simpa using hfound
      exact hnone x hx hboth.1 hboth.2
    show (e.attr? "DisplayName").getD unknown = "Unknown"
    rw [hattr]
    rfl
  entries := by
    intro name
    rw [Table.mem_keys_iff, get?_attributes, Option.isSome_map, List.find?_isSome]
    simp
  once := Table.pairwise_keys _
  last := fun front x back => get?_attributes_of_last

/-- Asked for a name that no attribute has in a namespace, the activity and the element give the
same answer. One attribute at most has the name, so it is the first and the last one. -/
theorem readsAlike_activityOf : ReadsAlike (Document.activityOf e) e := by
  intro name hplain
  -- Two attributes of the name would have no namespace either, and would not be distinct.
  have hone : e.head.attributes.Pairwise fun a b =>
      ¬((a.name == name) = true ∧ (b.name == name) = true) := by
    refine h.imp_of_mem fun {a b} ha hb hne hboth => hne ?_
    obtain ⟨haname, hbname⟩ := hboth
    rw [beq_iff_eq] at haname hbname
    exact ⟨(hplain a ha haname).trans (hplain b hb hbname).symm, haname.trans hbname.symm⟩
  have hfind : (e.head.attributes.find? fun x => x.name == name)
      = e.head.attributes.find? fun x => x.ns.isNone && x.name == name := by
    refine List.find?_congr fun x hx => ?_
    by_cases hname : x.name = name
    · simp [hname, hplain x hx hname]
    · simp [hname]
  rw [get?_attributes, find?_reverse_of_pairwise hone, hfind, Element.attr?]

end

namespace Document

/-! ### Activities of a document -/

/-- The activities of a document describe its elements below the root element, one by one and in
document order. An activity and its element give the same answer when asked for an attribute that
has no namespace wherever it occurs. The components are the tags of these elements in increasing
order, each once. -/
theorem activities_describe {source file : String} {d : Document}
    (h : Document.read source file = .ok d) :
    List.Forall₂ (fun a e => Describes a e ∧ ReadsAlike a e) d.activities (d.elements.drop 1) ∧
    (Facts.ofDocument d).components.toList.Pairwise (· < ·) ∧
    ∀ tag, tag ∈ (Facts.ofDocument d).components.toList ↔
      ∃ e ∈ d.elements.drop 1, e.name = tag := by
  have hdistinct := distinct_of_mem_elements h
  refine ⟨?_, Table.pairwise_keys _, fun tag => ?_⟩
  -- The elements behind the first one are those below the root.
  · show List.Forall₂ _ (d.root.below.map activityOf) d.root.below
    rw [List.forall₂_map_left_iff, List.forall₂_same]
    intro e he
    have he' : DistinctNames e.head.attributes := hdistinct e (List.mem_cons_of_mem _ he)
    exact ⟨describes_activityOf he', readsAlike_activityOf he'⟩
  · rw [Facts.components, Words.mem_toList_ofList]
    show tag ∈ (d.root.below.map activityOf).map (·.tag) ↔ ∃ e ∈ d.root.below, e.name = tag
    rw [List.map_map, List.mem_map]
    rfl

/-- A workflow in which an attribute occurs without a namespace and then in one. -/
def namedTwice : String :=
  "<A xmlns:x=\"urn:x\"><B DisplayName=\"Copy\" Level=\"Info\" x:Level=\"Warn\"/><B/></A>"

/-- The activity has the last level and the element the one without a namespace. About the name
they agree, and the element without attributes has none. -/
theorem activities_describe_namedTwice :
    ∃ d, Document.read namedTwice "Main.xaml" = .ok d ∧
      (Facts.ofDocument d).components.toList = ["B"] ∧
      ∃ a b e f, d.activities = [a, b] ∧ d.elements.drop 1 = [e, f] ∧
        a.name = "Copy" ∧ a.attributes.get? "Level" = some "Warn" ∧ e.attr? "Level" = some "Info" ∧
        a.attributes.get? "DisplayName" = e.attr? "DisplayName" ∧
        b.name = "Unknown" ∧ b.attributes.keys = [] := by
  obtain ⟨d, hread, hcomponents, hattributes⟩ :
      ∃ d, Document.read namedTwice "Main.xaml" = .ok d ∧
        (Facts.ofDocument d).components.toList = ["B"] ∧
        (d.elements.drop 1).map (·.head.attributes)
          = [[⟨none, "DisplayName", "Copy"⟩, ⟨none, "Level", "Info"⟩,
              ⟨some "urn:x", "Level", "Warn"⟩], []] :=
    exists_ok_of_any (by decide +kernel)
  obtain ⟨hdescribe, -⟩ := activities_describe hread
  -- There are two elements, and the activities come one for each of them.
  obtain ⟨e, rest, helements, he, hrest⟩ := List.map_eq_cons_iff.mp hattributes
  obtain ⟨f, rest, rfl, hf, hrest⟩ := List.map_eq_cons_iff.mp hrest
  obtain rfl := List.map_eq_nil_iff.mp hrest
  rw [helements] at hdescribe
  obtain ⟨a, activities, ⟨hdescribes, halike⟩, hbehind, hactivities⟩ :=
    List.forall₂_cons_right_iff.mp hdescribe
  obtain ⟨b, activities, ⟨hdescribesLast, -⟩, hnone, rfl⟩ := List.forall₂_cons_right_iff.mp hbehind
  obtain rfl := List.forall₂_nil_right_iff.mp hnone
  refine ⟨d, hread, hcomponents, a, b, e, f, hactivities, helements, ?_, ?_, ?_, ?_, ?_, ?_⟩
  · exact hdescribes.named ⟨none, "DisplayName", "Copy"⟩ (by simp [he]) rfl rfl
  · exact hdescribes.last [⟨none, "DisplayName", "Copy"⟩, ⟨none, "Level", "Info"⟩]
      ⟨some "urn:x", "Level", "Warn"⟩ [] he (by simp)
  · rw [Element.attr?, he]
    rfl
  · refine halike "DisplayName" ?_
    rw [he]
    decide
  · exact hdescribesLast.unnamed (by simp [hf])
  · refine List.eq_nil_iff_forall_not_mem.mpr fun name hname => ?_
    obtain ⟨x, hx, -⟩ := (hdescribesLast.entries name).mp hname
    rw [hf] at hx
    cases hx

end Document

end WorkflowLint
