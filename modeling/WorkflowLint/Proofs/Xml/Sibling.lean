import WorkflowLint.Proofs.Xml.Place

/-!
# `WorkflowLint.Proofs.Xml.Sibling`: siblings and parents by address

An address leads from the root element down, so its last number says which child of its parent
an element is. Going to the parent drops that number, and going to the next sibling adds one to
it. Both are computed on addresses; what they mean in the tree is proved here.

Two places are consecutive siblings when they stand side by side among the children of a place
of the tree (`Consecutive`); texts and asides between them do not count, because children are
elements. The next sibling is the place that is consecutive to a place (`next?_eq_some_iff`),
and whoever has a next sibling has a parent (`exists_parentAddress?`).
-/

set_option autoImplicit false

namespace WorkflowLint.Xml

namespace Place

variable {root : Element}

/-- The place of the next sibling, if there is one. -/
def next? (root : Element) (p : Place) : Option Place :=
  (nextAddress? p.address).bind root.place?

/-- Two places stand side by side among the children of a place of a tree. -/
def Consecutive (root : Element) (p q : Place) : Prop :=
  ∃ parent ∈ root.places, [p, q] <:+: parent.children

/-- A place whose address ends in a number is a child of a place of the tree, namely of the one at
the rest of the address. -/
theorem exists_parent {p : Place} {init : Address} {i : Nat} (hp : p ∈ root.places)
    (haddress : p.address = init ++ [i]) :
    ∃ parent ∈ root.places, parent.address = init ∧ parent.children[i]? = some p := by
  have hat := Element.mem_places_iff.mp hp
  -- The way to `p` goes through the element at `init` and takes one step from there.
  rw [haddress, Element.at?_append] at hat
  obtain ⟨e, he, hchild⟩ := Option.bind_eq_some_iff.mp hat
  refine ⟨⟨init, e⟩, Element.mem_places_iff.mpr he, rfl, ?_⟩
  rw [getElem?_children_eq_some_iff]
  obtain ⟨c, hc, hself⟩ := Option.bind_eq_some_iff.mp hchild
  obtain rfl : c = p.element := Option.some.inj hself
  exact ⟨haddress, hc⟩

/-- Two members of a list stand side by side when their numbers differ by one. -/
theorem pair_infix_iff {α : Type} {l : List α} {x y : α} :
    [x, y] <:+: l ↔ ∃ i, l[i]? = some x ∧ l[i + 1]? = some y := by
  constructor
  · rintro ⟨front, back, rfl⟩
    exact ⟨front.length, by simp, by simp⟩
  · rintro ⟨i, hx, hy⟩
    obtain ⟨hi, hx⟩ := List.getElem?_eq_some_iff.mp hx
    obtain ⟨hi', hy⟩ := List.getElem?_eq_some_iff.mp hy
    refine ⟨l.take i, l.drop (i + 2), ?_⟩
    -- The list is cut in front of the first one and behind the second.
    have hdrop : l.drop i = x :: y :: l.drop (i + 2) := by
      rw [List.drop_eq_getElem_cons hi, hx, List.drop_eq_getElem_cons hi', hy]
    rw [List.append_assoc]
    show l.take i ++ x :: y :: l.drop (i + 2) = l
    rw [← hdrop, List.take_append_drop]

/-- So consecutive siblings are children of one place with consecutive numbers. -/
theorem consecutive_iff {p q : Place} :
    Consecutive root p q ↔ ∃ parent ∈ root.places, ∃ i,
      parent.children[i]? = some p ∧ parent.children[i + 1]? = some q :=
  exists_congr fun _ => and_congr_right fun _ => pair_infix_iff

/-- The place at an address of the tree is found by its address, and there is only one. -/
theorem place?_eq_some_iff {a : Address} {p : Place} :
    root.place? a = some p ↔ p ∈ root.places ∧ p.address = a := by
  rw [Element.place?, Option.map_eq_some_iff, Element.mem_places_iff]
  constructor
  · rintro ⟨e, he, rfl⟩
    exact ⟨he, rfl⟩
  · rintro ⟨he, rfl⟩
    exact ⟨p.element, he, rfl⟩

/-- The next sibling is the place that stands behind a place among the children of its parent, and
there is none if nothing stands there. -/
theorem next?_eq_some_iff {p q : Place} (hp : p ∈ root.places) :
    p.next? root = some q ↔ Consecutive root p q := by
  rw [consecutive_iff, next?, Option.bind_eq_some_iff]
  constructor
  · rintro ⟨a, hnext, hq⟩
    obtain ⟨i, hlast, rfl⟩ := Option.map_eq_some_iff.mp hnext
    obtain ⟨init, hinit⟩ := List.getLast?_eq_some_iff.mp hlast
    rw [hinit, List.dropLast_concat, place?_eq_some_iff] at hq
    obtain ⟨hq, haddress⟩ := hq
    -- The two addresses differ in the last number only, so they have one parent.
    obtain ⟨parent, hparent, hparentAddress, hpChild⟩ := exists_parent hp hinit
    obtain ⟨parent', hparent', hparentAddress', hqChild⟩ := exists_parent hq haddress
    obtain rfl : parent = parent' :=
      Element.eq_of_address_eq hparent hparent' (hparentAddress.trans hparentAddress'.symm)
    exact ⟨parent, hparent, i, hpChild, hqChild⟩
  · rintro ⟨parent, hparent, i, hpChild, hqChild⟩
    obtain ⟨hpAddress, -⟩ := getElem?_children_eq_some_iff.mp hpChild
    obtain ⟨hqAddress, -⟩ := getElem?_children_eq_some_iff.mp hqChild
    have hq : q ∈ root.places :=
      mem_places_of_mem_children hparent (List.mem_of_getElem? hqChild)
    -- The address after that of `p` is the one of `q`, and the tree has a place there.
    refine ⟨q.address, ?_, place?_eq_some_iff.mpr ⟨hq, rfl⟩⟩
    rw [nextAddress?, hpAddress, hqAddress]
    simp

/-- Going to the next address leads to the element of the next sibling. -/
theorem map_next? (p : Place) :
    (p.next? root).map (·.element) = (nextAddress? p.address).bind root.at? := by
  rw [next?, Option.map_bind]
  refine congrArg _ (funext fun a => ?_)
  rw [Function.comp_apply, Element.place?, Option.map_map]
  exact Option.map_id'

/-- A place of a tree with a sibling behind it has a parent, and the two are children of it. -/
theorem Consecutive.exists_parentAddress? {p q : Place} (h : Consecutive root p q) :
    ∃ parent ∈ root.places, parentAddress? [] p.address = some parent.address ∧
      p ∈ parent.children ∧ q ∈ parent.children := by
  obtain ⟨parent, hparent, i, hpChild, hqChild⟩ := consecutive_iff.mp h
  refine ⟨parent, hparent, ?_, List.mem_of_getElem? hpChild, List.mem_of_getElem? hqChild⟩
  obtain ⟨hpAddress, -⟩ := getElem?_children_eq_some_iff.mp hpChild
  rw [hpAddress, parentAddress?, if_pos ⟨by simp, rfl⟩, List.dropLast_concat]

end Place

end WorkflowLint.Xml
