import WorkflowLint.Counting
import WorkflowLint.Proofs.Document.Search
import WorkflowLint.Proofs.Kind

/-!
# `WorkflowLint.Proofs.Document.Spelling`: searches by kind and by spelling agree

Some rules search by the kind of an activity and others by the spellings of its name. A name is of
a kind exactly when it is one of the kind's spellings (`Kind.ofTag_eq_ofTag_iff`), so both searches
keep the same places of the walk (`belowOfKind_eq_belowNamed`).

In a whole document the spellings are searched for one at a time. `merged` puts the results together
in document order, and that is the search by kind (`placesOfKind_eq_merged`): both lists are in
document order, and they hold the same places, because no element has two names.
-/

set_option autoImplicit false

namespace WorkflowLint

open Xml (Place)

/-! ### Below a place -/

/-- An element is of a name's kind exactly when it has one of the kind's spellings, as a test that
both searches can use. -/
theorem Xml.Element.kind_beq_ofTag (e : Element) (tag : String) :
    (e.kind == Kind.ofTag tag) = (Kind.ofTag tag).tags.contains e.name := by
  rw [Bool.eq_iff_iff, beq_iff_eq, List.contains_iff_mem]
  exact Kind.ofTag_eq_ofTag_iff

/-- So a search below an element by kind is one by spellings. -/
theorem Xml.Element.belowOfKind_eq_belowNamed (e : Element) (tag : String) :
    e.belowOfKind (· == Kind.ofTag tag) = e.belowNamed (Kind.ofTag tag).tags :=
  List.filter_congr fun d _ => d.kind_beq_ofTag tag

/-- And so is a search below a place: by kind or by all names of the kind, the same places are
found. -/
theorem Xml.Place.belowOfKind_eq_belowNamed (p : Place) (tag : String) :
    p.belowOfKind (· == Kind.ofTag tag) = p.belowNamed (Kind.ofTag tag).tags :=
  List.filter_congr fun q _ => q.element.kind_beq_ofTag tag

/-! ### Merging in document order -/

/-- Whether a place does not come behind another one in document order. -/
def inOrder (p q : Place) : Bool := !decide (q.Before p)

/-- Lists of places put together in document order, if each of them is. -/
def merged (lists : List (List Place)) : List Place :=
  lists.foldr (fun l rest => l.merge rest inOrder) []

/-- Document order is the order of addresses as lists, which is linear. -/
theorem inOrder_iff {p q : Place} : inOrder p q = true ↔ List.le p.address q.address := by
  rw [inOrder, Bool.not_eq_true', decide_eq_false_iff_not]
  rfl

/-- Of three places in order, the first and the last are. -/
theorem inOrder_trans (p q r : Place) (hpq : inOrder p q = true) (hqr : inOrder q r = true) :
    inOrder p r = true :=
  inOrder_iff.mpr (List.le_trans (inOrder_iff.mp hpq) (inOrder_iff.mp hqr))

/-- Of two places, one does not come behind the other, which is what sorting needs to know. -/
theorem inOrder_total (p q : Place) : (inOrder p q || inOrder q p) = true := by
  rw [Bool.or_eq_true, inOrder_iff, inOrder_iff]
  exact List.le_total p.address q.address

/-- What comes before is in order, and so is a place with itself. -/
theorem Xml.Place.Before.inOrder {p q : Place} (h : p.Before q) : inOrder p q = true :=
  inOrder_iff.mpr (List.le_of_lt h)

/-- Merging neither loses a place nor adds one; it only brings the places of all lists into one
order. -/
theorem perm_merged (lists : List (List Place)) : (merged lists).Perm lists.flatten := by
  induction lists with
  | nil => exact .nil
  | cons l lists ih =>
    exact (List.merge_perm_append inOrder).trans (ih.append_left l)

/-- Lists in document order are merged to a list in document order. -/
theorem pairwise_merged {lists : List (List Place)}
    (h : ∀ l ∈ lists, l.Pairwise fun p q => inOrder p q = true) :
    (merged lists).Pairwise fun p q => inOrder p q = true := by
  induction lists with
  | nil => exact .nil
  | cons l lists ih =>
    exact List.pairwise_merge inOrder_trans inOrder_total l (merged lists)
      (h l List.mem_cons_self) (ih fun l' hl' => h l' (List.mem_cons_of_mem l hl'))

/-! ### Whole documents -/

namespace Document

/-- The places of the elements of a kind, in document order. -/
def placesOfKind (d : Document) (k : Kind) : List Place :=
  d.root.places.filter fun p => p.element.kind == k

/-- Without their places these are the elements of the kind. -/
theorem map_placesOfKind (d : Document) (k : Kind) :
    (d.placesOfKind k).map (·.element) = d.ofKind k := by
  rw [ofKind, elements, ← Xml.Element.map_places, List.filter_map]
  rfl

/-- The places of a kind are those of its spellings, merged in document order. Both lists hold the
same places and both are in order, so they are equal. -/
theorem placesOfKind_eq_merged (d : Document) (tag : String) :
    d.placesOfKind (Kind.ofTag tag) = merged ((Kind.ofTag tag).tags.map d.placesNamed) := by
  have hplaces : d.root.places.Pairwise fun p q => inOrder p q = true :=
    d.root.pairwise_places.imp fun h => h.inOrder
  have hperm : (d.placesOfKind (Kind.ofTag tag)).Perm
      (merged ((Kind.ofTag tag).tags.map d.placesNamed)) := by
    -- An element has one name, so each place of the kind is found under one spelling.
    have hnames := perm_flatMap_filter_key (fun p : Place => p.element.name)
      (Kind.nodup_tags (Kind.ofTag tag)) d.root.places
    rw [placesOfKind, List.filter_congr fun p _ => p.element.kind_beq_ofTag tag]
    exact hnames.symm.trans (perm_merged _).symm
  refine hperm.eq_of_pairwise (fun p q hp hq hpq hqp => ?_) (hplaces.filter _)
    (pairwise_merged fun l hl => ?_)
  · -- Places that come neither before nor behind each other have one address.
    have haddress := List.le_antisymm (inOrder_iff.mp hpq) (inOrder_iff.mp hqp)
    exact Xml.Element.eq_of_address_eq (List.mem_filter.mp hp).1
      (List.mem_filter.mp (hperm.mem_iff.mpr hq)).1 haddress
  · obtain ⟨name, -, rfl⟩ := List.mem_map.mp hl
    exact hplaces.filter _

/-- Searching by the kind that a name has and by the spellings of that kind is the same. A name is
of the kind exactly when it is one of the spellings. Below a place both searches find the same
places in the same order. In a document the elements of the kind are those with each of the
spellings, merged in document order, and they are as many as these. -/
theorem ofKind_spellings (d : Document) (tag : String) :
    let k := Kind.ofTag tag
    (∀ other, Kind.ofTag other = k ↔ other ∈ k.tags) ∧
    (∀ r : Place, r.belowOfKind (· == k) = r.belowNamed k.tags) ∧
    (∀ e : Xml.Element, e.belowOfKind (· == k) = e.belowNamed k.tags) ∧
    d.placesOfKind k = merged (k.tags.map d.placesNamed) ∧
    (d.placesOfKind k).map (·.element) = d.ofKind k ∧
    d.countKind k = (merged (k.tags.map d.placesNamed)).length ∧
    d.countKind k = sumOf (fun name => (d.named name).length) k.tags := by
  intro k
  have hmerged := d.placesOfKind_eq_merged tag
  have hcount : d.countKind k = (merged (k.tags.map d.placesNamed)).length := by
    rw [countKind, ← map_placesOfKind, List.length_map, hmerged]
  refine ⟨fun other => Kind.ofTag_eq_ofTag_iff, fun r => r.belowOfKind_eq_belowNamed tag,
    fun e => e.belowOfKind_eq_belowNamed tag, hmerged, d.map_placesOfKind k, hcount, ?_⟩
  -- Places and elements of a name are as many.
  have hnamed : ∀ name, (d.placesNamed name).length = (d.named name).length := by
    intro name
    rw [← map_placesNamed, List.length_map]
  rw [hcount, (perm_merged _).length_eq, ← List.flatMap_def, length_flatMap_eq]
  simp only [hnamed]

end Document

end WorkflowLint
