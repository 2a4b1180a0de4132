import WorkflowLint.Document
import WorkflowLint.Proofs.Success
import WorkflowLint.Proofs.Xml.Ancestor

/-!
# `WorkflowLint.Proofs.Document.Search`: looking down and looking up agree

Rules look down from an element for others below it, by their names or their kinds, and they look
up from an element for its parent. Looking down filters one walk through the nodes, and looking up
drops the last number of an address. Both go by the same tree: from a place the parent is found of
exactly those places that are found below it, and it is the one place that has them among its
children (`parentBelow?_eq_some_iff`, `isSome_parentBelow?_iff`).

Two elements can look the same, so everything is said of places. The searches of elements are those
of places with the addresses forgotten (`map_belowNamed`, `map_belowOfKind`, `map_placesNamed`).
What is found by name below a place is what is found child by child (`belowNamed_eq_flatMap`), and
what is found in a document is the root element, if it has the name, and what is found below it
(`placesNamed_eq`).
-/

set_option autoImplicit false

namespace WorkflowLint

namespace Xml.Place

/-! ### Looking down -/

/-- The places strictly below whose elements have one of the names, in document order. -/
def belowNamed (p : Place) (names : List String) : List Place :=
  p.below.filter fun q => names.contains q.element.name

/-- The places strictly below whose kinds of elements satisfy a condition, in document order. -/
def belowOfKind (p : Place) (m : Kind → Bool) : List Place :=
  p.below.filter fun q => m q.element.kind

section
variable (p : Place)

/-- Without the addresses this is the search of elements by name. -/
theorem map_belowNamed (names : List String) :
    (p.belowNamed names).map (·.element) = p.element.belowNamed names := by
  rw [Element.belowNamed, ← map_below, List.filter_map]
  rfl

/-- And this is the search by kind: the places it finds have the elements that the plain search
finds, in the same order. -/
theorem map_belowOfKind (m : Kind → Bool) :
    (p.belowOfKind m).map (·.element) = p.element.belowOfKind m := by
  rw [Element.belowOfKind, ← map_below, List.filter_map]
  rfl

/-- A search that leaves nothing out finds all that is below. -/
theorem belowOfKind_all : p.belowOfKind (fun _ => true) = p.below :=
  List.filter_eq_self.mpr fun _ _ => rfl

/-- What such a search finds are the places below: a test that everything passes leaves nothing
out. -/
theorem mem_belowOfKind_all {q : Place} : q ∈ p.belowOfKind (fun _ => true) ↔ q ∈ p.below := by
  rw [belowOfKind_all]

/-- A search by name keeps document order, because it filters the places below. -/
theorem pairwise_belowNamed (names : List String) : (p.belowNamed names).Pairwise Before :=
  p.pairwise_below.filter _

/-- No place is below itself, because addresses below go on by at least one number. -/
theorem self_not_mem_below : p ∉ p.below := by
  intro hmem
  obtain ⟨i, tail, haddress, -⟩ := mem_below_iff.mp hmem
  simp at haddress

/-- A search by name goes from child to child: it finds the child, if it has one of the names, and
then what it finds below the child. -/
theorem belowNamed_eq_flatMap (names : List String) :
    p.belowNamed names = p.children.flatMap fun c =>
      (if c.element.name ∈ names then [c] else []) ++ c.belowNamed names := by
  rw [belowNamed, below_eq_flatMap, List.filter_flatMap]
  refine List.flatMap_congr fun c _ => ?_
  rw [List.filter_cons, belowNamed]
  -- The child is found or not, and what is below it follows in both cases.
  by_cases hname : c.element.name ∈ names
  · simp [hname]
  · simp [hname]

end

/-! ### Looking up -/

/-- The place of the parent, provided that the place lies strictly below `top`. -/
def parentBelow? (root : Element) (top p : Place) : Option Place :=
  (parentAddress? top.address p.address).bind root.place?

/-- A parent's address is that of the child without its last number, and it goes on from the
address above. -/
theorem parentAddress?_eq_some_iff {top target a : Address} :
    parentAddress? top target = some a ↔ top <+: a ∧ ∃ i, target = a ++ [i] := by
  rw [parentAddress?]
  constructor
  · intro h
    split at h
    · rename_i hbelow
      obtain ⟨hne, hleads⟩ := hbelow
      obtain ⟨tail, rfl⟩ := List.isPrefixOf_iff_prefix.mp hleads
      -- Something follows the address above, so its last number is the one that is dropped.
      have htail : tail ≠ [] := by
        rintro rfl
        exact hne (List.append_nil top)
      obtain rfl := Option.some.inj h
      rw [List.dropLast_append_of_ne_nil htail]
      refine ⟨List.prefix_append _ _, tail.getLast htail, ?_⟩
      rw [List.append_assoc, List.dropLast_append_getLast]
    · cases h
  · rintro ⟨hleads, i, rfl⟩
    -- An address that goes on from `top` by a number is not `top`.
    have hne : a ++ [i] ≠ top := by
      intro heq
      have hlength := hleads.length_le
      rw [← heq, List.length_append, List.length_singleton] at hlength
      omega
    rw [if_pos ⟨hne, List.isPrefixOf_iff_prefix.mpr (hleads.trans (List.prefix_append _ _))⟩,
      List.dropLast_concat]

section
variable {root : Element} {top p q : Place}

/-- Among the places of a tree, the children of a place are told by their addresses. -/
theorem mem_children_iff_address (hp : p ∈ root.places) (hq : q ∈ root.places) :
    p ∈ q.children ↔ ∃ i, p.address = q.address ++ [i] := by
  constructor
  · intro hchild
    obtain ⟨i, haddress, -⟩ := mem_children_iff.mp hchild
    exact ⟨i, haddress⟩
  · rintro ⟨i, haddress⟩
    obtain ⟨parent, hparent, hinit, hchild⟩ := exists_parent hp haddress
    obtain rfl := Element.eq_of_address_eq hparent hq hinit
    exact List.mem_of_getElem? hchild

/-- Among the places of a tree, an address goes on from that of a place at the place itself and
below it. -/
theorem prefix_address_iff (hp : p ∈ root.places) (hq : q ∈ root.places) :
    q.address <+: p.address ↔ p = q ∨ p ∈ q.below := by
  rw [mem_below_iff_address hp hq]
  constructor
  · rintro ⟨tail, haddress⟩
    cases tail with
    | nil =>
      rw [List.append_nil] at haddress
      exact .inl (Element.eq_of_address_eq hp hq haddress.symm)
    | cons i tail => exact .inr ⟨i, tail, haddress.symm⟩
  · rintro (rfl | ⟨i, tail, haddress⟩)
    · exact List.prefix_rfl
    · exact ⟨i :: tail, haddress.symm⟩

/-- The parent that is found is the place of the tree that has the place among its children, if it
is `top` or lies below. -/
theorem parentBelow?_eq_some_iff (htop : top ∈ root.places) (hp : p ∈ root.places) :
    top.parentBelow? root p = some q ↔
      q ∈ root.places ∧ p ∈ q.children ∧ (q = top ∨ q ∈ top.below) := by
  rw [parentBelow?, Option.bind_eq_some_iff]
  constructor
  · rintro ⟨a, ha, hq⟩
    obtain ⟨hplace, rfl⟩ := place?_eq_some_iff.mp hq
    obtain ⟨hleads, hlast⟩ := parentAddress?_eq_some_iff.mp ha
    exact ⟨hplace, (mem_children_iff_address hp hplace).mpr hlast,
      (prefix_address_iff hplace htop).mp hleads⟩
  -- The address of the parent is where the search looks.
  · rintro ⟨hplace, hchild, hbelow⟩
    refine ⟨q.address, parentAddress?_eq_some_iff.mpr ⟨?_, ?_⟩,
      place?_eq_some_iff.mpr ⟨hplace, rfl⟩⟩
    · exact (prefix_address_iff hplace htop).mpr hbelow
    · exact (mem_children_iff_address hp hplace).mp hchild

/-- A place of a tree is a child of one place only, since the address of the parent is that of the
child without its last number. -/
theorem eq_of_mem_children (hp : p ∈ root.places) (hq : q ∈ root.places)
    {c : Place} (hpc : c ∈ p.children) (hqc : c ∈ q.children) : p = q := by
  obtain ⟨i, hi, -⟩ := mem_children_iff.mp hpc
  obtain ⟨j, hj, -⟩ := mem_children_iff.mp hqc
  exact Element.eq_of_address_eq hp hq (List.append_inj' (hi.symm.trans hj) rfl).1

/-- The parent is found of exactly those places that lie below. Of the place itself it is not,
even if it has one further up. -/
theorem isSome_parentBelow?_iff (htop : top ∈ root.places) (hp : p ∈ root.places) :
    (top.parentBelow? root p).isSome = true ↔ p ∈ top.below := by
  rw [Option.isSome_iff_exists]
  constructor
  · rintro ⟨q, hq⟩
    obtain ⟨hplace, hchild, hbelow⟩ := (parentBelow?_eq_some_iff htop hp).mp hq
    have haddress := (mem_children_iff_address hp hplace).mp hchild
    exact (mem_below_iff_parent hp hplace haddress htop).mpr (hbelow.imp_left Eq.symm)
  · intro hbelow
    obtain ⟨i, tail, haddress⟩ := (mem_below_iff_address hp htop).mp hbelow
    -- A place below another one is not the root, so it has a parent.
    have hne : p.address ≠ [] := by simp [haddress]
    have hlast := (List.dropLast_append_getLast hne).symm
    obtain ⟨q, hplace, hinit, hchild⟩ := exists_parent hp hlast
    rw [← hinit] at hlast
    refine ⟨q, (parentBelow?_eq_some_iff htop hp).mpr ⟨hplace, List.mem_of_getElem? hchild, ?_⟩⟩
    exact ((mem_below_iff_parent hp hplace ⟨_, hlast⟩ htop).mp hbelow).imp_left Eq.symm

end

end Xml.Place

/-! ### Whole documents -/

namespace Document

open Xml (Place)

/-- The place of the root element. -/
def top (d : Document) : Place := ⟨[], d.root⟩

/-- The places of the elements with a name, in document order. -/
def placesNamed (d : Document) (name : String) : List Place :=
  d.root.places.filter fun p => p.element.name == name

/-- Without the addresses these are the elements of the document with the name. -/
theorem map_placesNamed (d : Document) (name : String) :
    (d.placesNamed name).map (·.element) = d.named name := by
  rw [named, elements, ← Xml.Element.map_places, List.filter_map]
  rfl

/-- A search by name in a document is the root, if it has the name, and then a search below the
root. -/
theorem placesNamed_eq (d : Document) (name : String) :
    d.placesNamed name
      = (if d.root.name = name then [d.top] else []) ++ d.top.belowNamed [name] := by
  have hbelow : d.top.belowNamed [name] = d.top.below.filter fun p => p.element.name == name := by
    refine List.filter_congr fun p _ => ?_
    simp only [List.contains_cons, List.contains_nil, Bool.or_false]
  rw [hbelow, placesNamed, Xml.Element.places, List.filter_cons]
  by_cases hname : d.root.name = name
  · simp [hname, top, Place.below]
  · simp [hname, top, Place.below]

/-- Looking down and looking up agree. Take two places of a document, `r` and `t`.

The parent of `t` is found from `r` exactly if `t` is among all that is found below `r`. It is then
the one place of the document that has `t` among its children, and it is `r` or lies below `r`.

A search by names below `r` comes in document order, without duplicates and without `r`, and it
goes from child to child: the child itself, if it has one of the names, and what the search finds
below the child. A search by name in the document is the root element, if it has the name, and the
search below it. Without the places, these are the searches that rules use. -/
theorem search_agrees (d : Document) {r t : Place} (hr : r ∈ d.root.places)
    (ht : t ∈ d.root.places) (names : List String) (name : String) :
    ((r.parentBelow? d.root t).isSome = true ↔ t ∈ r.belowOfKind fun _ => true) ∧
    (∀ p, r.parentBelow? d.root t = some p →
      p ∈ d.root.places ∧ t ∈ p.children ∧ (∀ q ∈ d.root.places, t ∈ q.children → q = p) ∧
        (p = r ∨ p ∈ r.below)) ∧
    ((r.belowNamed names).Pairwise Place.Before ∧ (r.belowNamed names).Nodup ∧
      r ∉ r.belowNamed names ∧
      r.belowNamed names = r.children.flatMap fun c =>
        (if c.element.name ∈ names then [c] else []) ++ c.belowNamed names) ∧
    d.placesNamed name
      = (if d.root.name = name then [d.top] else []) ++ d.top.belowNamed [name] ∧
    (∀ m, (r.belowOfKind m).map (·.element) = r.element.belowOfKind m) ∧
    (r.belowNamed names).map (·.element) = r.element.belowNamed names ∧
    (d.placesNamed name).map (·.element) = d.named name := by
  have horder := r.pairwise_belowNamed names
  refine ⟨?_, fun p hp => ?_, ⟨horder, horder.imp fun h => h.ne, fun hmem => ?_,
    r.belowNamed_eq_flatMap names⟩, d.placesNamed_eq name, r.map_belowOfKind,
    r.map_belowNamed names, d.map_placesNamed name⟩
  · rw [Place.isSome_parentBelow?_iff hr ht, Place.mem_belowOfKind_all]
  · obtain ⟨hplace, hchild, hbelow⟩ := (Place.parentBelow?_eq_some_iff hr ht).mp hp
    exact ⟨hplace, hchild, fun q hq hqt => Place.eq_of_mem_children hq hplace hqt hchild, hbelow⟩
  · exact r.self_not_mem_below (List.mem_filter.mp hmem).1

/-- A workflow with messages at several depths, and what is no element between them. -/
def scatteredMessages : String :=
  "<Activity><Sequence>Log <!-- --><If><LogMessage/></If><LogMessage/></Sequence>" ++
  "<LogMessage/></Activity>"

/-- Seen from the sequence, the innermost message has the branch as its parent, which lies below the
sequence. Two of the three messages are found below the sequence, and both are different. -/
theorem search_agrees_scatteredMessages :
    ∃ d, Document.read scatteredMessages "Main.xaml" = .ok d ∧
      ∃ sequence ∈ d.root.places, ∃ message ∈ d.root.places,
        sequence.address = [0] ∧ message.address = [0, 0, 0] ∧
        (sequence.belowNamed ["LogMessage"]).length = 2 ∧
        (sequence.belowNamed ["LogMessage"]).Nodup ∧
        ∃ branch ∈ sequence.below, sequence.parentBelow? d.root message = some branch ∧
          branch.address = [0, 0] ∧ message ∈ branch.children := by
  obtain ⟨d, hread, sequence, hsequence, message, hmessage, htop, haddress, hlength, hparent⟩ :
      ∃ d, Document.read scatteredMessages "Main.xaml" = .ok d ∧
        ∃ sequence ∈ d.root.places, ∃ message ∈ d.root.places,
          sequence.address = [0] ∧ message.address = [0, 0, 0] ∧
          (sequence.belowNamed ["LogMessage"]).length = 2 ∧
          (sequence.parentBelow? d.root message).map (·.address) = some [0, 0] :=
    exists_ok_of_any (by decide +kernel)
  obtain ⟨branch, hbranch, hbranchAddress⟩ := Option.map_eq_some_iff.mp hparent
  obtain ⟨-, hfound, ⟨-, hnodup, -⟩, -⟩ :=
    search_agrees d hsequence hmessage ["LogMessage"] "LogMessage"
  obtain ⟨-, hchild, -, heq | hbelow⟩ := hfound branch hbranch
  · rw [heq, htop] at hbranchAddress
    cases hbranchAddress
  · exact ⟨d, hread, sequence, hsequence, message, hmessage, htop, haddress, hlength, hnodup,
      branch, hbelow, hbranch, hbranchAddress, hchild⟩

end Document

end WorkflowLint
