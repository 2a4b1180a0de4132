import WorkflowLint.Proofs.Document.Search
import WorkflowLint.Proofs.Rule.CatchBlocks
import WorkflowLint.Proofs.Rule.EmptyParts

/-!
# `WorkflowLint.Proofs.Rule.HollowParts`: hollow parts and what is below them

Whether a part is hollow is decided by a look at its children and, if there is one only, at the
children of that one. This counts what is below, however deep and with whatever texts and comments
between the elements: a part is hollow exactly when fewer than two elements are below it.
`KnowsBelow` says this of a place in a document, where what is below is told by the addresses.

So the two rules that ask for hollow parts count elements. `hollowThens` and `hollowCatches` are the
places that they come to and report. A branch or a block is among them exactly when its part is
`Scant`: `hollowParts_below`.
-/

set_option autoImplicit false

namespace WorkflowLint

open Xml

/-! ### Counting what is below -/

/-- What an element of a document tells about the elements below it. -/
structure KnowsBelow (d : Document) (p : Place) : Prop where
  /-- A search below that leaves nothing out finds the places whose addresses go on. -/
  found : ∀ q, q ∈ p.belowOfKind (fun _ => true) ↔
    q ∈ d.root.places ∧ ∃ i tail, q.address = p.address ++ i :: tail
  /-- It finds each of them once. -/
  once : (p.belowOfKind fun _ => true).Nodup
  elements : (p.belowOfKind fun _ => true).map (·.element)
    = p.element.belowOfKind fun _ => true
  hollow : p.element.isHollow = true ↔ (p.belowOfKind fun _ => true).length ≤ 1
  childless : p.element.children.length = 0 ↔ p.belowOfKind (fun _ => true) = []

namespace Xml.Place

/-- As many places as elements are below a place, since each place stands for the element at its
address. -/
theorem length_below (p : Place) : p.below.length = p.element.below.length := by
  rw [← map_below, List.length_map]

/-- A place is hollow exactly when one element at most is below it, at any depth. -/
theorem isHollow_iff (p : Place) : p.element.isHollow = true ↔ p.below.length ≤ 1 := by
  rw [p.element.isHollow_iff, length_below]

/-- Nothing is below a place exactly when its element has no children. -/
theorem below_eq_nil_iff (p : Place) : p.below = [] ↔ p.element.children = [] := by
  rw [← p.element.below_eq_nil_iff, ← map_below, List.map_eq_nil_iff]

end Xml.Place

/-- Every place of a document tells what is below it. The addresses find the places, and there are
no two with one address. -/
theorem Document.knowsBelow {d : Document} {p : Place} (hp : p ∈ d.root.places) :
    KnowsBelow d p where
  found := by
    intro q
    rw [p.belowOfKind_all]
    constructor
    · intro hq
      have hplace := Place.mem_places_of_mem_below hp hq
      exact ⟨hplace, (Place.mem_below_iff_address hplace hp).mp hq⟩
    · rintro ⟨hplace, haddress⟩
      exact (Place.mem_below_iff_address hplace hp).mpr haddress
  once := p.nodup_below.filter _
  elements := p.map_belowOfKind _
  hollow := by rw [p.belowOfKind_all, p.isHollow_iff]
  childless := by rw [p.belowOfKind_all, p.below_eq_nil_iff, List.length_eq_zero_iff]

namespace Rule

/-! ### Parts -/

/-- There is no child with the name, or fewer than two elements are below the first one. -/
def Scant (p : Place) (name : String) : Prop :=
  p.child? name = none ∨ ∃ part ∈ p.child? name, part.below.length < 2

/-- What the rules ask of a branch or a block: there is no child with the name, or the first one is
hollow. -/
def lacksPart (p : Place) (name : String) : Bool := (p.element.child? name).all (·.isHollow)

/-- What the rules ask, in terms of what is below the part. They look at the first child of the
name only, even if there are several. -/
theorem lacksPart_iff {p : Place} {name : String} : lacksPart p name = true ↔ Scant p name := by
  rw [lacksPart, Scant, ← Place.map_child?]
  cases p.child? name with
  | none => simp
  | some part =>
    constructor
    · intro h
      exact .inr ⟨part, rfl, Nat.lt_succ_of_le (part.isHollow_iff.mp h)⟩
    -- The part that is found is the first one, so it is this one.
    · rintro (h | ⟨other, hother, h⟩)
      · cases h
      · obtain rfl := Option.some.inj hother
        exact part.isHollow_iff.mpr (Nat.le_of_lt_succ h)

/-! ### The places that are reported -/

/-- The branches that `LOGIC-003` reports, in document order. -/
def hollowThens (d : Document) : List Place :=
  (d.placesOfKind .branch).filter fun branch => lacksPart branch "If.Then"

/-- The catch blocks that `LOGIC-002` reports. -/
def hollowCatches (d : Document) : List Place :=
  (handlerBlocks d).filter fun block => lacksPart block "ActivityAction"

/-- Without its places this is the list of branches that the rule goes through to report. -/
theorem map_hollowThens (d : Document) : (hollowThens d).map (·.element) = emptyThens d := by
  rw [emptyThens, ← d.map_placesOfKind, List.filter_map]
  rfl

/-- The same for the blocks of error handlers, which the rule goes through handler by handler. -/
theorem map_hollowCatches (d : Document) :
    (hollowCatches d).map (·.element) = emptyCatches d := by
  rw [emptyCatches, ← List.filter_flatMap, ← map_handlerBlocks, List.filter_map]
  rfl

/-- A branch is reported exactly when its part is missing or nearly empty. -/
theorem mem_hollowThens_iff {d : Document} {branch : Place} :
    branch ∈ hollowThens d ↔
      branch ∈ d.root.places ∧ branch.element.kind = .branch ∧ Scant branch "If.Then" := by
  rw [hollowThens, List.mem_filter, Document.placesOfKind, List.mem_filter, lacksPart_iff,
    beq_iff_eq, and_assoc]

/-- A block is reported under the same condition on its own part. -/
theorem mem_hollowCatches_iff {d : Document} {block : Place} :
    block ∈ hollowCatches d ↔ IsHandlerBlock d block ∧ Scant block "ActivityAction" := by
  rw [hollowCatches, List.mem_filter, mem_handlerBlocks_iff, lacksPart_iff]

/-- Hollow parts are those with fewer than two elements below. An element of a document is hollow
exactly when a search below it that leaves nothing out finds one place at most, and it has no
children exactly when the search finds none.

`LOGIC-003` makes one report for each branch, in document order, that has no `If.Then` or fewer than
two elements below the first one, and no other reports. `LOGIC-002` makes one report for each block
of an error handler that has no `ActivityAction` or fewer than two elements below the first one, and
no other reports. -/
theorem hollowParts_below (d : Document) (t : Thresholds) :
    (∀ p ∈ d.root.places, KnowsBelow d p) ∧
    (Labelled "LOGIC-003" (emptyThen (.of d t)) ∧
      PointAt (emptyThen (.of d t)) ((hollowThens d).map (·.element)) ∧
      (hollowThens d).Sublist d.root.places ∧ (hollowThens d).Nodup ∧
      ∀ branch, branch ∈ hollowThens d ↔
        branch ∈ d.root.places ∧ branch.element.kind = .branch ∧ Scant branch "If.Then") ∧
    (Labelled "LOGIC-002" (emptyCatch (.of d t)) ∧
      PointAt (emptyCatch (.of d t)) ((hollowCatches d).map (·.element)) ∧
      (hollowCatches d).Nodup ∧
      ∀ block, block ∈ hollowCatches d ↔
        IsHandlerBlock d block ∧ Scant block "ActivityAction") := by
  have hlabelled : Labelled "LOGIC-003" (emptyThen (.of d t)) := .map (fun _ => by rfl) _
  -- Two filters of the places, one by kind and one by part, keep their order.
  have hsublist : (hollowThens d).Sublist d.root.places :=
    List.filter_sublist.trans List.filter_sublist
  refine ⟨fun p hp => Document.knowsBelow hp,
    ⟨hlabelled, ?_, hsublist, hsublist.nodup d.root.nodup_places,
      fun branch => mem_hollowThens_iff⟩,
    ⟨labelled_emptyCatch _, ?_, (nodup_handlerBlocks d).filter _,
      fun block => mem_hollowCatches_iff⟩⟩
  · rw [map_hollowThens]
    exact pointAt_emptyThen (.of d t)
  · rw [map_hollowCatches]
    exact pointAt_emptyCatch (.of d t)

/-- A workflow with a branch that has no part, one whose part holds an element in an element, and a
catch block with a text and an element. -/
def nearlyEmpty : String :=
  "<A><If/>\n<If><If.Then><B><C/></B></If.Then></If><TryCatch><TryCatch.Catches>" ++
  "<Catch><ActivityAction>x<B/></ActivityAction></Catch></TryCatch.Catches></TryCatch></A>"

/-- The first branch is reported. The second one is not: its part has one child only, but two
elements are below the part. The catch block is reported, whatever text stands beside its one
element. -/
theorem hollowParts_below_nearlyEmpty :
    ∃ d, Document.read nearlyEmpty "Main.xaml" = .ok d ∧
      (emptyThen (.of d {})).map (·.location) = ["If (line 1)"] ∧
      (∃ branch ∈ d.root.places, branch.address = [1] ∧ branch.element.kind = .branch ∧
        ¬ Scant branch "If.Then") ∧
      (∃ part ∈ d.root.places, part.address = [1, 0] ∧ part.element.children.length = 1 ∧
        1 < (part.belowOfKind fun _ => true).length) ∧
      (emptyCatch (.of d {})).map (·.location) = ["Catch (line 2)"] ∧
      ∃ block, block.address = [2, 0, 0] ∧ IsHandlerBlock d block ∧
        Scant block "ActivityAction" := by
  obtain ⟨d, hread, hthens, honly, ⟨branch, hbranch, haddress, hkind⟩,
    ⟨part, hpart, hpartAddress, hchildren, hnotHollow⟩, hcatches, block, hblock, hblockAddress⟩ :
      ∃ d, Document.read nearlyEmpty "Main.xaml" = .ok d ∧
        (hollowThens d).map (·.element.located) = ["If (line 1)"] ∧
        (∀ branch ∈ hollowThens d, branch.address ≠ [1]) ∧
        (∃ branch ∈ d.root.places, branch.address = [1] ∧ branch.element.kind = .branch) ∧
        (∃ part ∈ d.root.places, part.address = [1, 0] ∧ part.element.children.length = 1 ∧
          part.element.isHollow = false) ∧
        (hollowCatches d).map (·.element.located) = ["Catch (line 2)"] ∧
        ∃ block ∈ hollowCatches d, block.address = [2, 0, 0] :=
    exists_ok_of_any (by decide +kernel)
  obtain ⟨hknows, ⟨-, hpointThens, -, -, hmemThens⟩, -, hpointCatches, -, hmemCatches⟩ :=
    hollowParts_below d {}
  rw [PointAt, List.map_map] at hpointThens hpointCatches
  -- That the catch block is reported is computed; what this says of it is the theorem's.
  obtain ⟨hisBlock, hscant⟩ := (hmemCatches block).mp hblock
  refine ⟨d, hread, hpointThens.trans hthens, ⟨branch, hbranch, haddress, hkind, fun hscant => ?_⟩,
    ⟨part, hpart, hpartAddress, hchildren, Nat.not_le.mp fun hle => ?_⟩,
    hpointCatches.trans hcatches, block, hblockAddress, hisBlock, hscant⟩
  -- Were its part scant, the branch would be among the reported ones.
  · exact honly branch ((hmemThens branch).mpr ⟨hbranch, hkind, hscant⟩) haddress
  · rw [(hknows part hpart).hollow.mpr hle] at hnotHollow
    cases hnotHollow

end Rule

end WorkflowLint
