import WorkflowLint.Namespaces
import WorkflowLint.Proofs.RuleChoice
import WorkflowLint.Proofs.Sorted
import WorkflowLint.Proofs.Xml.Lawful

/-!
# `WorkflowLint.Proofs.Namespaces`: the first declaration of each label

The table of a document is made by a scan that notes, at every element, all bindings in scope
there. Most of these are inherited, so the scan meets the same declaration again and again, and
it can meet a label with a namespace that was declared further out after one that was declared
further in.

None of this shows in the table. A binding whose key is in the table already changes nothing
(`note_of_known`), and when the scan comes to an element, everything that the element inherits
has been noted at the elements around it. So after every element the table is the one that the
declarations alone give (`scan_prefix_eq`), and a key has the namespace of its first
declaration (`get?_foldl_note`).
-/

set_option autoImplicit false

namespace WorkflowLint

open Xml

namespace Namespaces

/-! ### Noting bindings -/

/-- A binding that changes a table no more: its key is left out, or is there already. -/
def Known (t : Table String) (b : Binding) : Prop :=
  keyOf b = "xml" ∨ (t.get? (keyOf b)).isSome = true

/-- A known binding changes nothing: either its key is left out, or the table keeps what it has. -/
theorem note_of_known {t : Table String} {b : Binding} (h : Known t b) : note t b = t := by
  rw [note]
  split
  · rfl
  · rename_i hxml
    have hthere := h.resolve_left fun heq => hxml (beq_iff_eq.mpr heq)
    rw [Table.insertNew, if_pos hthere]

/-- A key keeps its namespace, and gets that of the binding if it has none. -/
theorem get?_note (t : Table String) (b : Binding) {p : String} (hp : p ≠ "xml") :
    (note t b).get? p = (t.get? p).or (if keyOf b = p then some b.uri else none) := by
  rw [note]
  split
  · rename_i hxml
    have hkey : keyOf b ≠ p := fun heq => hp (heq.symm.trans (beq_iff_eq.mp hxml))
    rw [if_neg hkey, Option.or_none]
  · exact Table.get?_insertNew t (keyOf b) b.uri p

/-- The key that is left out is never put in: noting a binding leaves what the table says of it as
it was. -/
theorem get?_note_xml (t : Table String) (b : Binding) : (note t b).get? "xml" = t.get? "xml" := by
  rw [note]
  split
  · rfl
  · rename_i hxml
    rw [Table.get?_insertNew, if_neg fun heq => hxml (beq_iff_eq.mpr heq), Option.or_none]

/-- A key that had no namespace has that of the first binding with it. Later bindings of the key
come too late. -/
theorem get?_foldl_note (l : List Binding) (t : Table String) {p : String} (hp : p ≠ "xml") :
    (l.foldl note t).get? p = (t.get? p).or ((l.find? fun b => keyOf b == p).map (·.uri)) := by
  induction l generalizing t with
  | nil => exact Option.or_none.symm
  | cons b rest ih =>
    rw [List.foldl_cons, ih, get?_note t b hp, Option.or_assoc]
    -- The first binding has the key, or it is passed over.
    by_cases hb : keyOf b = p <;> simp [hb]

/-- However many bindings are noted, the key that is left out stays out. -/
theorem get?_foldl_note_xml (l : List Binding) (t : Table String) :
    (l.foldl note t).get? "xml" = t.get? "xml" := by
  induction l generalizing t with
  | nil => rfl
  | cons b rest ih => rw [List.foldl_cons, ih, get?_note_xml]

/-- A binding stays known, and those that were noted are known. So what is in scope around an
element is known when the scan comes to it. -/
theorem known_foldl_note {t : Table String} {l : List Binding} {b : Binding}
    (h : b ∈ l ∨ Known t b) : Known (l.foldl note t) b := by
  by_cases hxml : keyOf b = "xml"
  · exact .inl hxml
  · right
    rw [get?_foldl_note l t hxml, Option.isSome_or, Bool.or_eq_true]
    rcases h with hmem | hknown
    · right
      rw [Option.isSome_map, List.find?_isSome]
      exact ⟨b, hmem, beq_self_eq_true _⟩
    · exact .inl (hknown.resolve_left hxml)

/-- Known bindings change nothing, however many there are. -/
theorem foldl_note_of_known {t : Table String} {l : List Binding} (h : ∀ b ∈ l, Known t b) :
    l.foldl note t = t := by
  induction l with
  | nil => rfl
  | cons b rest ih =>
    obtain ⟨hb, hrest⟩ := List.forall_mem_cons.mp h
    rw [List.foldl_cons, note_of_known hb, ih hrest]

/-! ### The scan -/

/-- The table after a scan of some elements, which notes all bindings in scope at each. -/
def scan (elements : List Element) : Table String :=
  elements.foldl (fun t e => e.head.scope.foldl note t) .empty

/-- The declarations of some elements, in the order of the elements and then of each source. -/
def declaredBy (elements : List Element) : List Binding := elements.flatMap (·.head.declared)

/-- A scan notes the scopes of all elements one after the other, so it may be seen as one long
list of bindings. -/
theorem scan_eq (elements : List Element) :
    scan elements = (elements.flatMap (·.head.scope)).foldl note .empty :=
  List.foldl_flatMap.symm

/-- What an element inherits is known, so noting its scope is noting its declarations, which come
first in the scope. -/
theorem foldl_note_scope {around : List Binding} {head : Head} (hhead : head.Lawful around)
    {t : Table String} (ht : ∀ b ∈ around, Known t b) :
    head.scope.foldl note t = head.declared.foldl note t := by
  rw [hhead.scope_eq, Builder.scopeOf, List.foldl_append]
  -- The rest of the scope is inherited, and what is inherited was known before the element came.
  refine foldl_note_of_known fun b hb => known_foldl_note (.inr ?_)
  exact ht b (List.mem_of_mem_filter hb)

/-- A prefix of two lists one behind the other ends in the first one or goes on in the second. -/
theorem prefix_append_cases {α : Type} {front l m : List α} (h : front <+: l ++ m) :
    front <+: l ∨ ∃ rest, front = l ++ rest ∧ rest <+: m := by
  rcases List.prefix_or_prefix_of_prefix h (List.prefix_append l m) with hfront | ⟨rest, rfl⟩
  · exact .inl hfront
  · exact .inr ⟨rest, rfl, (List.prefix_append_right_inj l).mp h⟩

/-- After every element of a lawful content, the bindings in scope have given the same table as
the declarations, if the bindings around the content were known before. The induction carries the
table so far and the scope around. -/
theorem foldl_scope_of_prefix {around : List Binding} {content : List Node}
    (h : ∀ n ∈ content, n.Lawful around) {t : Table String} (ht : ∀ b ∈ around, Known t b)
    {seen : List Element} (hseen : seen <+: elementsOf content) :
    (seen.flatMap (·.head.scope)).foldl note t = (declaredBy seen).foldl note t := by
  induction content using content_induction generalizing around t seen with
  | nil =>
    obtain rfl : seen = [] := List.prefix_nil.mp hseen
    rfl
  | element head content rest ihcontent ihrest =>
    obtain ⟨hfirst, hrest⟩ := List.forall_mem_cons.mp h
    cases hfirst with
    | element hhead hcontent =>
      rw [elementsOf_cons, Node.elements_element, List.cons_append] at hseen
      cases seen with
      | nil => rfl
      | cons e seen =>
        obtain ⟨rfl, htail⟩ := List.cons_prefix_cons.mp hseen
        -- The whole scope is known from here on, which the elements inside inherit.
        have hinside : ∀ b ∈ head.scope, Known (head.scope.foldl note t) b :=
          fun b hb => known_foldl_note (.inl hb)
        rw [declaredBy, List.flatMap_cons, List.flatMap_cons, List.foldl_append,
          List.foldl_append]
        show _ = (declaredBy seen).foldl note (head.declared.foldl note t)
        rw [← foldl_note_scope hhead ht]
        rcases prefix_append_cases htail with htail | ⟨behind, rfl, hbehind⟩
        · exact ihcontent hcontent hinside htail
        · -- What stands behind the element inherits what was around it, which is known still.
          have hcontentAll := ihcontent hcontent hinside (List.prefix_refl (elementsOf content))
          have hstill : ∀ b ∈ around,
              Known (((elementsOf content).flatMap (·.head.scope)).foldl note
                (head.scope.foldl note t)) b :=
            fun b hb => known_foldl_note (.inr (known_foldl_note (.inr (ht b hb))))
          rw [declaredBy, List.flatMap_append, List.flatMap_append, List.foldl_append,
            List.foldl_append, ihrest hrest hstill hbehind, hcontentAll]
          rfl
  | text s rest ih => exact ih (List.forall_mem_cons.mp h).2 ht (by simpa using hseen)
  | aside rest ih => exact ih (List.forall_mem_cons.mp h).2 ht (by simpa using hseen)

/-- At every moment of the scan of a document the table is that of the declarations so far. -/
theorem scan_prefix_eq {source file : String} {d : Document}
    (h : Document.read source file = .ok d) {seen : List Element} (hseen : seen <+: d.elements) :
    scan seen = (declaredBy seen).foldl note .empty := by
  have hroot : ∀ n ∈ [d.root.node], n.Lawful [] := by simpa using Document.lawful_root h
  have hnone : ∀ b ∈ ([] : List Binding), Known .empty b := by simp
  rw [scan_eq]
  exact foldl_scope_of_prefix hroot hnone (by rwa [Document.elementsOf_root])

/-- Only a label that is spelled out has the key `x`. -/
theorem keyOf_eq_x_iff {b : Binding} : (keyOf b == "x") = (b.label == some "x") := by
  obtain ⟨label, uri⟩ := b
  cases label with
  | none => rfl
  | some label => rfl

end Namespaces

namespace Document

open Namespaces

/-- The namespaces of a document are those of its declarations alone. At every moment of the scan
the table is what the declarations so far give, whatever is inherited, and a namespace that is in
the table then is there in the end. So each key except `xml`, which is left out, has the namespace
of its first declaration in document order and, for one element, in source order; a declaration
without a label counts for the key `default`. The language's own namespace is the first one that
the label `x` is declared for, or else the well-known one. -/
theorem namespaces_firstDeclared {source file : String} {d : Document}
    (h : Document.read source file = .ok d) :
    (∀ seen, seen <+: d.elements →
      scan seen = (declaredBy seen).foldl note .empty ∧
        ∀ p uri, (scan seen).get? p = some uri → d.namespaces.get? p = some uri) ∧
    (∀ p, p ≠ "xml" → d.namespaces.get? p
      = ((declaredBy d.elements).find? fun b => keyOf b == p).map (·.uri)) ∧
    d.namespaces.get? "xml" = none ∧
    d.xamlUri
      = (((declaredBy d.elements).find? fun b => b.label == some "x").map (·.uri)).getD
          wellKnownXaml := by
  have htable : d.namespaces = (declaredBy d.elements).foldl note .empty :=
    scan_prefix_eq h (List.prefix_refl d.elements)
  have hxml (l : List Binding) : (l.foldl note .empty).get? "xml" = none :=
    get?_foldl_note_xml l .empty
  have hfirst : ∀ p, p ≠ "xml" → d.namespaces.get? p
      = ((declaredBy d.elements).find? fun b => keyOf b == p).map (·.uri) := by
    intro p hp
    rw [htable, get?_foldl_note _ _ hp]
    rfl
  refine ⟨fun seen hseen => ⟨scan_prefix_eq h hseen, fun p uri hget => ?_⟩, hfirst, ?_, ?_⟩
  · obtain ⟨rest, hrest⟩ := hseen
    rw [scan_prefix_eq h ⟨rest, hrest⟩] at hget
    -- The key that is left out has no namespace at any time.
    have hp : p ≠ "xml" := by
      rintro rfl
      rw [hxml] at hget
      cases hget
    -- Later declarations are noted on top of the table, which keeps what it has.
    rw [htable, ← hrest, declaredBy, List.flatMap_append, List.foldl_append,
      get?_foldl_note _ _ hp]
    show (((declaredBy seen).foldl note .empty).get? p).or _ = some uri
    rw [hget]
    rfl
  · rw [htable, hxml]
  · rw [xamlUri, hfirst "x" (by decide)]
    simp only [keyOf_eq_x_iff]

/-- A workflow that declares labels again further in, one of them with the name that the default
namespace goes by. -/
def redeclared : String :=
  "<A xmlns=\"urn:a\" xmlns:x=\"urn:x\"><B xmlns:default=\"urn:b\" xmlns:x=\"urn:y\" " ++
  "xmlns:ui=\"urn:u\"><C/></B><D xmlns:ui=\"urn:v\"/></A>"

/-- The first declarations count, and the inner ones only where there was none. -/
theorem namespaces_firstDeclared_redeclared :
    ∃ d, Document.read redeclared "Main.xaml" = .ok d ∧
      d.namespaces.get? "x" = some "urn:x" ∧ d.namespaces.get? "default" = some "urn:a" ∧
      d.namespaces.get? "ui" = some "urn:u" ∧ d.namespaces.get? "ue" = none ∧
      d.xamlUri = "urn:x" ∧
      scan (d.elements.take 2) = (declaredBy (d.elements.take 2)).foldl note .empty := by
  obtain ⟨d, hread, hx, hdefault, hui, hue⟩ :
      ∃ d, Document.read redeclared "Main.xaml" = .ok d ∧
        ((declaredBy d.elements).find? fun b => b.label == some "x")
          = some ⟨some "x", "urn:x"⟩ ∧
        ((declaredBy d.elements).find? fun b => keyOf b == "default") = some ⟨none, "urn:a"⟩ ∧
        ((declaredBy d.elements).find? fun b => keyOf b == "ui") = some ⟨some "ui", "urn:u"⟩ ∧
        ((declaredBy d.elements).find? fun b => keyOf b == "ue") = none :=
    exists_ok_of_any (by decide +kernel)
  obtain ⟨hscan, hfirst, -, hxaml⟩ := namespaces_firstDeclared hread
  refine ⟨d, hread, ?_, ?_, ?_, ?_, ?_, (hscan _ (List.take_prefix 2 d.elements)).1⟩
  · rw [hfirst "x" (by decide)]
    simp only [keyOf_eq_x_iff, hx, Option.map_some]
  · rw [hfirst "default" (by decide), hdefault, Option.map_some]
  · rw [hfirst "ui" (by decide), hui, Option.map_some]
  · rw [hfirst "ue" (by decide), hue, Option.map_none]
  · rw [hxaml, hx]
    rfl

end Document

end WorkflowLint
