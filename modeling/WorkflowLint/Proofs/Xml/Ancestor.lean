import WorkflowLint.Proofs.Xml.Sibling

/-!
# `WorkflowLint.Proofs.Xml.Ancestor`: walking up and measuring down

The way up from a place goes from parent to parent until there is none. `ancestors` lists the
places that it comes through. It ends, because every step drops a number of the address, and on
a tree it comes through the places that have the first one below them, each once
(`mem_ancestors_iff`, `nodup_ancestors`).

The depth of an element is computed the other way round, from the content down: the height of a
content is the greatest height of its nodes. Both count levels. A place is as many steps below
the root element as its address is long (`length_ancestors`), and the longest address below an
element is as long as the element is deep (`length_address_le`, `exists_length_address`).
So the depth of a tree is the greatest number of steps that a walk up can take
(`max?_length_ancestors`).
-/

set_option autoImplicit false

namespace WorkflowLint.Xml

namespace Place

variable {root : Element} {p q : Place}

/-! ### Parents -/

/-- The place of the parent, if there is one. -/
def parent? (root : Element) (p : Place) : Option Place :=
  (parentAddress? [] p.address).bind root.place?

/-- Going to the parent drops the last number of an address, and the parent is a place of the
tree. -/
theorem parent?_eq_some (h : p.parent? root = some q) :
    q ∈ root.places ∧ ∃ i, p.address = q.address ++ [i] := by
  obtain ⟨a, ha, hq⟩ := Option.bind_eq_some_iff.mp h
  obtain ⟨hplace, rfl⟩ := place?_eq_some_iff.mp hq
  rw [parentAddress?] at ha
  split at ha
  · rename_i hbelow
    refine ⟨hplace, p.address.getLast hbelow.1, ?_⟩
    rw [← Option.some.inj ha, List.dropLast_append_getLast]
  · cases ha

/-- The root has no parent: its address is empty, and no address is shorter. -/
theorem parent?_eq_none_of_nil (h : p.address = []) : p.parent? root = none := by
  rw [parent?, h]
  rfl

/-- A place whose address ends in a number has a parent, at the address without it. -/
theorem exists_parent?_eq_some {init : Address} {i : Nat} (hp : p ∈ root.places)
    (haddress : p.address = init ++ [i]) :
    ∃ parent ∈ root.places, p.parent? root = some parent ∧ parent.address = init := by
  obtain ⟨parent, hparent, hinit, -⟩ := exists_parent hp haddress
  refine ⟨parent, hparent, ?_, hinit⟩
  rw [parent?, haddress, parentAddress?, if_pos ⟨by simp, rfl⟩, List.dropLast_concat]
  exact place?_eq_some_iff.mpr ⟨hparent, hinit⟩

/-! ### The way up -/

/-- The places on the way up from a place: its parent, the parent of that one, and so on until
there is none. -/
def ancestors (root : Element) (p : Place) : List Place :=
  match _h : p.parent? root with
  | none => []
  | some parent => parent :: parent.ancestors root
termination_by p.address.length
decreasing_by
  obtain ⟨-, i, haddress⟩ := parent?_eq_some _h
  simp [haddress]

/-- Without a parent there is no way up, so the list of ancestors is empty. -/
theorem ancestors_of_none (h : p.parent? root = none) : p.ancestors root = [] := by
  rw [ancestors]
  split
  · rfl
  · rename_i hsome
    rw [h] at hsome
    cases hsome

/-- With a parent, the way up starts with it and goes on from there. -/
theorem ancestors_of_some (h : p.parent? root = some q) :
    p.ancestors root = q :: q.ancestors root := by
  rw [ancestors]
  split
  · rename_i hnone
    rw [h] at hnone
    cases hnone
  · rename_i parent hsome
    obtain rfl : q = parent := Option.some.inj (h.symm.trans hsome)
    rfl

/-- Induction along the way up. Every place of a tree is the root element or has a parent. -/
theorem way_induction {motive : (p : Place) → p ∈ root.places → Prop}
    (top : motive ⟨[], root⟩ List.mem_cons_self)
    (step : ∀ p parent hp hparent, p.parent? root = some parent →
      (∃ i, p.address = parent.address ++ [i]) → motive parent hparent → motive p hp)
    (p : Place) (hp : p ∈ root.places) : motive p hp := by
  induction hlength : p.address.length generalizing p with
  | zero =>
    -- The empty address is that of the root.
    have haddress : p.address = [] := List.length_eq_zero_iff.mp hlength
    have htop : (⟨[], root⟩ : Place) ∈ root.places := List.mem_cons_self
    obtain rfl : p = ⟨[], root⟩ := Element.eq_of_address_eq hp htop haddress
    exact top
  | succ n ih =>
    have hne : p.address ≠ [] := by
      intro hnil
      rw [hnil] at hlength
      cases hlength
    -- Any other address has a last number, and the parent has the rest of it.
    have haddress := (List.dropLast_append_getLast hne).symm
    obtain ⟨parent, hparent, hsome, hinit⟩ := exists_parent?_eq_some hp haddress
    rw [← hinit] at haddress
    refine step p parent hp hparent hsome ⟨_, haddress⟩ (ih parent hparent ?_)
    rw [hinit, List.length_dropLast, hlength]
    rfl

/-- The way up takes one step for each number of the address. -/
theorem length_ancestors (hp : p ∈ root.places) :
    (p.ancestors root).length = p.address.length := by
  induction p, hp using way_induction with
  | top => rw [ancestors_of_none (parent?_eq_none_of_nil rfl)]; rfl
  | step p parent _ _ hsome haddress ih =>
    obtain ⟨i, haddress⟩ := haddress
    rw [ancestors_of_some hsome, List.length_cons, ih, haddress, List.length_append]
    rfl

/-- Among the places of a tree, those below a place are told by their addresses. -/
theorem mem_below_iff_address (hp : p ∈ root.places) (hq : q ∈ root.places) :
    p ∈ q.below ↔ ∃ i tail, p.address = q.address ++ i :: tail := by
  rw [mem_below_iff]
  constructor
  · rintro ⟨i, tail, haddress, -⟩
    exact ⟨i, tail, haddress⟩
  · rintro ⟨i, tail, haddress⟩
    have hat := Element.mem_places_iff.mp hp
    rw [haddress, Element.at?_append, Element.mem_places_iff.mp hq] at hat
    exact ⟨i, tail, haddress, hat⟩

/-- What is below a place is its child, or below it where its parent is. This is the step by which
the way up and what is below are compared. -/
theorem mem_below_iff_parent {parent : Place} (hp : p ∈ root.places)
    (hparent : parent ∈ root.places) (haddress : ∃ i, p.address = parent.address ++ [i])
    (hq : q ∈ root.places) : p ∈ q.below ↔ q = parent ∨ parent ∈ q.below := by
  obtain ⟨i, haddress⟩ := haddress
  rw [mem_below_iff_address hp hq, mem_below_iff_address hparent hq, haddress]
  constructor
  · rintro ⟨j, tail, h⟩
    -- The last number of `p` is `j` if nothing follows it, and else the last one of `tail`.
    rcases List.eq_nil_or_concat tail with rfl | ⟨tail, k, rfl⟩
    · obtain ⟨h, -⟩ := List.append_inj' h rfl
      exact .inl (Element.eq_of_address_eq hq hparent h.symm)
    · rw [List.concat_eq_append, ← List.cons_append, ← List.append_assoc] at h
      exact .inr ⟨j, tail, (List.append_inj' h rfl).1⟩
  · rintro (rfl | ⟨j, tail, h⟩)
    · exact ⟨i, [], rfl⟩
    · exact ⟨j, tail ++ [i], by rw [h, List.append_assoc, List.cons_append]⟩

/-- The way up comes through the places that have the first one below them. -/
theorem mem_ancestors_iff (hp : p ∈ root.places) :
    q ∈ p.ancestors root ↔ q ∈ root.places ∧ p ∈ q.below := by
  induction p, hp using way_induction with
  | top =>
    rw [ancestors_of_none (parent?_eq_none_of_nil rfl)]
    constructor
    · intro h
      cases h
    · rintro ⟨-, hbelow⟩
      obtain ⟨i, tail, haddress, -⟩ := mem_below_iff.mp hbelow
      simp at haddress
  | step p parent hp hparent hsome haddress ih =>
    rw [ancestors_of_some hsome, List.mem_cons, ih]
    constructor
    -- The parent itself, or one further up.
    · rintro (rfl | ⟨hq, hbelow⟩)
      · exact ⟨hparent, (mem_below_iff_parent hp hparent haddress hparent).mpr (.inl rfl)⟩
      · exact ⟨hq, (mem_below_iff_parent hp hparent haddress hq).mpr (.inr hbelow)⟩
    · rintro ⟨hq, hbelow⟩
      exact ((mem_below_iff_parent hp hparent haddress hq).mp hbelow).imp_right fun h => ⟨hq, h⟩

/-- The way up comes to no place twice, because a place is never below itself. -/
theorem nodup_ancestors (hp : p ∈ root.places) : (p.ancestors root).Nodup := by
  induction p, hp using way_induction with
  | top => rw [ancestors_of_none (parent?_eq_none_of_nil rfl)]; exact List.nodup_nil
  | step p parent _ hparent hsome _ ih =>
    rw [ancestors_of_some hsome, List.nodup_cons]
    refine ⟨fun hmem => ?_, ih⟩
    -- Otherwise a place is below itself.
    obtain ⟨i, tail, haddress, -⟩ := mem_below_iff.mp ((mem_ancestors_iff hparent).mp hmem).2
    simp at haddress

end Place

/-! ### Height -/

section
variable (base : Address) (i : Nat)

/-- No address in a content is longer than the content is high, counted from the address around
it. -/
theorem length_address_le (content : List Node) :
    ∀ p ∈ placesOf base i content, p.address.length ≤ base.length + heightOf content := by
  induction content using content_induction generalizing base i with
  | nil => simp [placesOf]
  | element head content rest ihcontent ihrest =>
    intro p hp
    rw [placesOf_element, List.mem_cons, List.mem_append] at hp
    simp only [heightOf, Node.height]
    -- The element itself, a place in it, or one behind it.
    rcases hp with rfl | hp | hp
    · simp only [List.length_append, List.length_singleton]
      omega
    · have h := ihcontent _ _ p hp
      simp only [List.length_append, List.length_singleton] at h
      omega
    · have h := ihrest _ _ p hp
      omega
  | text s rest ih =>
    simp only [placesOf_text, heightOf, Node.height, Nat.zero_max]
    exact ih base i
  | aside rest ih =>
    simp only [placesOf_aside, heightOf, Node.height, Nat.zero_max]
    exact ih base i

/-- Some address in a content is as long as the content is high, if it has any element. The
highest node is behind the first element, in it, or the element itself. -/
theorem exists_length_address (content : List Node) (h : 0 < heightOf content) :
    ∃ p ∈ placesOf base i content, p.address.length = base.length + heightOf content := by
  induction content using content_induction generalizing base i with
  | nil => simp [heightOf] at h
  | element head content rest ihcontent ihrest =>
    simp only [placesOf_element, heightOf, Node.height, List.mem_cons, List.mem_append]
    by_cases hrest : 1 + heightOf content ≤ heightOf rest
    · -- The highest node is behind the element.
      obtain ⟨p, hp, hlength⟩ := ihrest base (i + 1) (by omega)
      exact ⟨p, .inr (.inr hp), by omega⟩
    · by_cases hcontent : 0 < heightOf content
      · obtain ⟨p, hp, hlength⟩ := ihcontent (base ++ [i]) 0 hcontent
        refine ⟨p, .inr (.inl hp), ?_⟩
        rw [hlength, List.length_append, List.length_singleton]
        omega
      · refine ⟨⟨base ++ [i], ⟨head, content⟩⟩, .inl rfl, ?_⟩
        rw [List.length_append, List.length_singleton]
        omega
  | text s rest ih =>
    simp only [placesOf_text, heightOf, Node.height, Nat.zero_max] at h ⊢
    exact ih base i h
  | aside rest ih =>
    simp only [placesOf_aside, heightOf, Node.height, Nat.zero_max] at h ⊢
    exact ih base i h

end

/-- Every level of a content has an element, so there are at least as many elements as levels. -/
theorem heightOf_le_length (content : List Node) :
    heightOf content ≤ (elementsOf content).length := by
  induction content using content_induction with
  | nil => exact Nat.le_refl 0
  | element head content rest ihcontent ihrest =>
    simp only [heightOf, Node.height, elementsOf_cons, Node.elements_element, List.length_append,
      List.length_cons]
    omega
  | text s rest ih => simpa [heightOf, Node.height] using ih
  | aside rest ih => simpa [heightOf, Node.height] using ih

/-- A content with an element has a level, and one without elements has none. -/
theorem heightOf_eq_zero_iff (content : List Node) :
    heightOf content = 0 ↔ elementsOf content = [] := by
  induction content using content_induction with
  | nil => simp [heightOf]
  | element head content rest _ _ => simp [heightOf, Node.height]
  | text s rest ih => simpa [heightOf, Node.height] using ih
  | aside rest ih => simpa [heightOf, Node.height] using ih

/-- The depth of a tree is the greatest number of steps on the way up from one of its places.
Steps up and numbers of an address are as many, and the longest address is as long as the tree is
deep. -/
theorem Element.max?_length_ancestors (root : Element) :
    (root.places.map fun p => (p.ancestors root).length).max? = some root.depth := by
  have hsteps : (root.places.map fun p => (p.ancestors root).length)
      = root.places.map (·.address.length) :=
    List.map_congr_left fun p hp => Place.length_ancestors hp
  rw [hsteps, List.max?_eq_some_iff, Element.places, List.map_cons]
  constructor
  · -- Either nothing is below the root element, or one of the places below is at the bottom.
    rw [List.mem_cons, List.mem_map]
    by_cases hdepth : 0 < heightOf root.content
    · obtain ⟨p, hp, hlength⟩ := exists_length_address [] 0 root.content hdepth
      exact .inr ⟨p, hp, by simpa [Element.depth] using hlength⟩
    · left
      show heightOf root.content = 0
      omega
  · intro n hn
    rw [List.mem_cons, List.mem_map] at hn
    rcases hn with rfl | ⟨p, hp, rfl⟩
    · exact Nat.zero_le _
    · simpa [Element.depth] using length_address_le [] 0 root.content p hp

end WorkflowLint.Xml
