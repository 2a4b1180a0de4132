import WorkflowLint.Document
import WorkflowLint.Proofs.Success
import WorkflowLint.Proofs.Xml.Skeleton

/-!
# `WorkflowLint.Proofs.Xml.Lawful`: what every document obeys that was read

An `Element` can be built with any head. The heads of a document that was read from a text obey
two laws (`Head.Lawful`): the namespaces in scope are the element's own declarations, followed by
those of the scope around it that the element does not declare anew; and no two attributes have
the same name in the same namespace. The scope around an element is that of the element it stands
in, so the laws are about whole trees (`Node.Lawful`).

The reader takes one token after the other and keeps the elements that are still open.
`Builder.Lawful` is its invariant: every open element obeys the laws, with the content it has so
far, in the scope of the next one further out. A token keeps the invariant (`Lawful.push`). So a
whole run does (`Lawful.run`), and the root element that it ends with is lawful
(`Document.lawful_root`).
-/

set_option autoImplicit false

namespace WorkflowLint.Xml

/-! ### The laws -/

/-- No two attributes have the same name in the same namespace. -/
def DistinctNames (attributes : List Attribute) : Prop :=
  attributes.Pairwise fun a b => ¬(a.ns = b.ns ∧ a.name = b.name)

/-- The laws of a head whose element stands in the scope `around`. -/
structure Head.Lawful (around : List Binding) (head : Head) : Prop where
  scope_eq : head.scope = Builder.scopeOf head.declared around
  distinct : DistinctNames head.attributes

/-- Every head in a node obeys the laws, in the scope of the element around it. -/
inductive Node.Lawful : List Binding → Node → Prop where
  | element {around : List Binding} {head : Head} {content : List Node}
      (hhead : head.Lawful around) (hcontent : ∀ n ∈ content, Node.Lawful head.scope n) :
      Lawful around (.element head content)
  | text {around : List Binding} (s : String) : Lawful around (.text s)
  | aside {around : List Binding} : Lawful around .aside

/-- The heads in a lawful content have distinct attributes, however deep they are. -/
theorem distinct_of_mem_elementsOf {around : List Binding} {content : List Node}
    (h : ∀ n ∈ content, n.Lawful around) :
    ∀ e ∈ elementsOf content, DistinctNames e.head.attributes := by
  induction content using content_induction generalizing around with
  | nil => simp
  | element head content rest ihcontent ihrest =>
    obtain ⟨hfirst, hrest⟩ := List.forall_mem_cons.mp h
    cases hfirst with
    | element hhead hcontent =>
      intro e he
      rw [elementsOf_cons, Node.elements_element, List.cons_append, List.mem_cons,
        List.mem_append] at he
      -- The element itself, one in it, or one behind it.
      rcases he with rfl | he | he
      · exact hhead.distinct
      · exact ihcontent hcontent e he
      · exact ihrest hrest e he
  | text s rest ih => simpa using ih (List.forall_mem_cons.mp h).2
  | aside rest ih => simpa using ih (List.forall_mem_cons.mp h).2

namespace Builder

/-! ### Heads -/

/-- An attribute is resolved to one that differs from those in front of it. -/
theorem exists_of_resolveAttributes_cons {scope : List Binding} {a : RawAttribute}
    {rest : List RawAttribute} {done attributes : List Attribute}
    (h : resolveAttributes scope done (a :: rest) = .ok attributes) :
    ∃ ns, (∀ b ∈ done, ¬(b.ns = ns ∧ b.name = a.name.name)) ∧
      resolveAttributes scope (done ++ [⟨ns, a.name.name, a.value⟩]) rest = .ok attributes := by
  rw [resolveAttributes] at h
  -- Where the namespace comes from makes no difference.
  split at h
  case' isFalse => split at h
  all_goals
    obtain ⟨ns, -, h⟩ := bind_eq_ok_iff.mp h
    dsimp only at h
    split at h
    · cases h
    · rename_i hnew
      refine ⟨ns, fun b hb hsame => hnew (List.any_eq_true.mpr ⟨b, hb, ?_⟩), h⟩
      simp [hsame]

/-- Resolving keeps the attributes distinct. The induction goes along those still to be resolved,
and the invariant is about those that are done. -/
theorem distinct_resolveAttributes {scope : List Binding} (raw : List RawAttribute)
    {done attributes : List Attribute} (hdone : DistinctNames done)
    (h : resolveAttributes scope done raw = .ok attributes) : DistinctNames attributes := by
  induction raw generalizing done with
  | nil =>
    obtain rfl : done = attributes := Except.ok.inj h
    exact hdone
  | cons a rest ih =>
    obtain ⟨ns, hnew, h⟩ := exists_of_resolveAttributes_cons h
    refine ih (List.pairwise_append.mpr ⟨hdone, List.pairwise_singleton _ _, ?_⟩) h
    -- The new attribute differs from each of those in front of it.
    intro b hb c hc
    obtain rfl := List.mem_singleton.mp hc
    exact hnew b hb

/-- The scope that an element will stand in which is read next. -/
def scopeAround (stack : List OpenElement) : List Binding :=
  (stack.head?.map (·.head.scope)).getD []

/-- A head that the reader makes obeys the laws in the scope around it. The scope is made as the
law says, and the attributes were compared when they were resolved. -/
theorem lawful_headOf {b : Builder} {tag : StartTag} {head : Head}
    (h : b.headOf tag = .ok head) : head.Lawful (scopeAround b.stack) := by
  obtain ⟨attributes, hattributes, h⟩ := bind_eq_ok_iff.mp h
  obtain ⟨ns, -, h⟩ := bind_eq_ok_iff.mp h
  obtain rfl := Except.ok.inj h
  exact ⟨rfl, distinct_resolveAttributes _ .nil hattributes⟩

/-! ### The invariant -/

/-- The open elements are lawful, each with its content so far and in the scope of the next one
further out. -/
def LawfulStack : List OpenElement → Prop
  | [] => True
  | top :: outer =>
    top.head.Lawful (scopeAround outer) ∧ (∀ n ∈ top.content, n.Lawful top.head.scope) ∧
      LawfulStack outer

/-- What is open and what is finished obeys the laws. -/
structure Lawful (b : Builder) : Prop where
  stack : LawfulStack b.stack
  root : ∀ e, b.root? = some e → e.node.Lawful []

namespace Lawful

variable {b b' : Builder}

/-- At the start nothing is open and nothing is finished, so there is nothing that could break the
law. -/
theorem empty : Lawful empty := ⟨trivial, fun _ h => nomatch h⟩

/-- The start tag being read does not matter, since its element is not open yet. -/
theorem withTag (h : b.Lawful) (tag? : Option StartTag) : Lawful { b with tag? } :=
  ⟨h.stack, h.root⟩

/-- A lawful node may be added to what is open. Behind the root element there is nothing to add
to, and the node is dropped. -/
theorem add (h : b.Lawful) {n : Node} (hn : n.Lawful (scopeAround b.stack)) :
    (b.add n).Lawful := by
  obtain ⟨tag?, stack, root?⟩ := b
  cases stack with
  | nil => exact h
  | cons top outer =>
    obtain ⟨htop, hcontent, houter⟩ := h.stack
    refine ⟨⟨htop, ?_, houter⟩, h.root⟩
    -- A text that touches another one is joined to it, and anything else is added in front.
    intro m hm
    split at hm
    · rename_i _ _ _ _ hbefore
      rcases List.mem_cons.mp hm with rfl | hm
      · exact .text _
      · exact hcontent m (hbefore ▸ List.mem_cons_of_mem _ hm)
    · rcases List.mem_cons.mp hm with rfl | hm
      · exact hn
      · exact hcontent m hm

/-- An element that ends is added to the one around it, or it is the root element and everything
is finished. -/
theorem finish (h : b.Lawful) {e : Element} (he : e.node.Lawful (scopeAround b.stack)) :
    (b.finish e).Lawful := by
  obtain ⟨tag?, stack, root?⟩ := b
  cases stack with
  | nil =>
    refine ⟨trivial, fun root hroot => ?_⟩
    obtain rfl := Option.some.inj hroot
    exact he
  | cons top outer => exact h.add he

/-- A token keeps the invariant. Only the end of a start tag and an end tag touch elements; the
others add texts or are about the tag being read. -/
theorem push (h : b.Lawful) {token : Token} (hpush : b.push token = .ok b') : b'.Lawful := by
  cases token with
  | tagStart name here =>
    rw [Builder.push] at hpush
    split at hpush
    · cases hpush
    · obtain rfl := Except.ok.inj hpush
      exact h.withTag _
  | attr name value here =>
    rw [Builder.push] at hpush
    split at hpush
    · obtain rfl := Except.ok.inj hpush
      exact h
    · obtain ⟨tag, -, hpush⟩ := bind_eq_ok_iff.mp hpush
      obtain rfl := Except.ok.inj hpush
      exact h.withTag _
  | tagEnd isEmpty =>
    rw [Builder.push] at hpush
    split at hpush
    · obtain rfl := Except.ok.inj hpush
      exact h
    · obtain ⟨head, hhead, hpush⟩ := bind_eq_ok_iff.mp hpush
      -- An empty element is finished at once, and any other one is opened without content.
      have hlawful := lawful_headOf hhead
      split at hpush
      · obtain rfl := Except.ok.inj hpush
        exact (h.withTag none).finish (.element hlawful (by simp))
      · obtain rfl := Except.ok.inj hpush
        exact ⟨⟨hlawful, by simp, h.stack⟩, h.root⟩
  | endTag name here =>
    obtain ⟨tag?, stack, root?⟩ := b
    rw [Builder.push] at hpush
    split at hpush
    · obtain rfl := Except.ok.inj hpush
      exact h
    · rename_i top outer hstack
      obtain rfl : stack = top :: outer := hstack
      split at hpush
      · obtain rfl := Except.ok.inj hpush
        obtain ⟨htop, hcontent, houter⟩ := h.stack
        have hrest : Lawful ⟨tag?, outer, root?⟩ := ⟨houter, h.root⟩
        -- The content was held with the last node first, which the laws do not look at.
        have hdone : Node.Lawful (scopeAround outer) (.element top.head top.content.reverse) :=
          .element htop fun n hn => hcontent n (List.mem_reverse.mp hn)
        exact hrest.finish hdone
      · cases hpush
  | text passage =>
    obtain ⟨s, -, hpush⟩ := bind_eq_ok_iff.mp hpush
    obtain rfl := Except.ok.inj hpush
    exact h.add (.text s)
  | literal passage =>
    obtain rfl := Except.ok.inj hpush
    exact h.add (.text _)
  | aside =>
    obtain rfl := Except.ok.inj hpush
    exact h.add .aside

/-- A run over tokens keeps the invariant, by induction on the tokens: each of them is one step. -/
theorem run (h : b.Lawful) {tokens : List Token}
    (hrun : tokens.foldlM Builder.push b = .ok b') : b'.Lawful := by
  induction tokens generalizing b with
  | nil =>
    obtain rfl : b = b' := Except.ok.inj hrun
    exact h
  | cons token rest ih =>
    rw [List.foldlM_cons] at hrun
    obtain ⟨next, hpush, hrun⟩ := bind_eq_ok_iff.mp hrun
    exact ih (h.push hpush) hrun

end Lawful

end Builder

/-- The root element of a text obeys the laws, and nothing is in scope around it. -/
theorem lawful_of_read {text : String} {root : Element} (h : read text = .ok root) :
    root.node.Lawful [] := by
  obtain ⟨b, hrun, h⟩ := bind_eq_ok_iff.mp h
  have hlawful := Builder.Lawful.empty.run hrun
  -- What is no complete document was no success, so a root element is left.
  split at h
  · cases h
  split at h
  · cases h
  split at h
  · rename_i hroot
    obtain rfl := Except.ok.inj h
    exact hlawful.root _ hroot
  · cases h

end WorkflowLint.Xml

namespace WorkflowLint.Document

open Xml

/-- The elements of a document are those of its root element alone. -/
theorem elementsOf_root (d : Document) : elementsOf [d.root.node] = d.elements := by
  simp [Element.node, elements, Element.withBelow, Element.below]

section
variable {source file : String} {d : Document} (h : Document.read source file = .ok d)
include h

/-- So the root element of every document obeys the laws, with nothing in scope around it. -/
theorem lawful_root : d.root.node.Lawful [] := by
  obtain ⟨root, hroot, h⟩ := bind_eq_ok_iff.mp h
  obtain rfl := Except.ok.inj h
  exact lawful_of_read hroot

/-- No element of a document has two attributes with the same name in the same namespace. -/
theorem distinct_of_mem_elements : ∀ e ∈ d.elements, DistinctNames e.head.attributes := by
  have hroot : ∀ n ∈ [d.root.node], n.Lawful [] := by simpa using lawful_root h
  rw [← elementsOf_root]
  exact distinct_of_mem_elementsOf hroot

end

end WorkflowLint.Document
