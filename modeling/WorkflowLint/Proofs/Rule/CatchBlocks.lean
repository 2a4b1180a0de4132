import Mathlib.Data.List.Nodup
import WorkflowLint.Proofs.Document.Spelling
import WorkflowLint.Rule.Handler

/-!
# `WorkflowLint.Proofs.Rule.CatchBlocks`: blocks of error handlers and their places

Some rules go through the error handlers of a document and through the blocks of each, which are the
children of its first `TryCatch.Catches`. Two blocks can look the same, so they are told apart by
their places. A block is two levels below its handler (`address_of_mem_blocks`), hence it belongs to
one handler only (`handler_eq`), and no block is met twice, however handlers are nested
(`nodup_handlerBlocks`).
-/

set_option autoImplicit false

namespace WorkflowLint.Rule

open Xml

/-- The blocks of an error handler. -/
def blocks (handler : Place) : List Place :=
  ((handler.child? "TryCatch.Catches").map (·.children)).getD []

/-- The blocks of all error handlers of a document, handler by handler. -/
def handlerBlocks (d : Document) : List Place := (d.placesOfKind .tryCatch).flatMap blocks

/-- A place is a block of an error handler: a child of its first `TryCatch.Catches`. -/
def IsHandlerBlock (d : Document) (block : Place) : Prop :=
  ∃ handler ∈ d.root.places, handler.element.kind = .tryCatch ∧
    ∃ catches ∈ handler.child? "TryCatch.Catches", block ∈ catches.children

/-- Without the places these are the children that rules go through. -/
theorem map_blocks (handler : Place) :
    (blocks handler).map (·.element) = catchChildren handler.element := by
  rw [blocks, catchChildren, ← Place.map_child?]
  cases handler.child? "TryCatch.Catches" with
  | none => rfl
  | some catches => exact catches.map_children

/-- The same for all handlers of a document, one after the other. -/
theorem map_handlerBlocks (d : Document) :
    (handlerBlocks d).map (·.element) = (d.ofKind .tryCatch).flatMap catchChildren := by
  rw [handlerBlocks, ← d.map_placesOfKind, List.map_flatMap, List.flatMap_map]
  exact List.flatMap_congr fun handler _ => map_blocks handler

/-- A block of a handler is a child of its first part with the name. -/
theorem mem_blocks_iff {handler block : Place} :
    block ∈ blocks handler ↔
      ∃ catches ∈ handler.child? "TryCatch.Catches", block ∈ catches.children := by
  rw [blocks]
  cases handler.child? "TryCatch.Catches" with
  | none => simp
  | some catches => simp

/-- A block of a document is one of some handler in it. -/
theorem mem_handlerBlocks_iff {d : Document} {block : Place} :
    block ∈ handlerBlocks d ↔ IsHandlerBlock d block := by
  rw [handlerBlocks, List.mem_flatMap]
  constructor
  · rintro ⟨handler, hhandler, hblock⟩
    obtain ⟨hplace, hkind⟩ := List.mem_filter.mp hhandler
    exact ⟨handler, hplace, beq_iff_eq.mp hkind, mem_blocks_iff.mp hblock⟩
  · rintro ⟨handler, hplace, hkind, hblock⟩
    exact ⟨handler, List.mem_filter.mpr ⟨hplace, beq_iff_eq.mpr hkind⟩, mem_blocks_iff.mpr hblock⟩

/-- A block is two levels below its handler: its address has two numbers more, that of the part
and its own. -/
theorem address_of_mem_blocks {handler block : Place} (h : block ∈ blocks handler) :
    ∃ i j, block.address = handler.address ++ [i, j] := by
  obtain ⟨catches, hcatches, hblock⟩ := mem_blocks_iff.mp h
  obtain ⟨i, hi, -⟩ := Place.mem_children_iff.mp (List.mem_of_find?_eq_some hcatches)
  obtain ⟨j, hj, -⟩ := Place.mem_children_iff.mp hblock
  exact ⟨i, j, by rw [hj, hi, List.append_assoc]; rfl⟩

/-- The blocks of a handler in a document are places of the document. -/
theorem mem_places_of_mem_blocks {d : Document} {handler block : Place}
    (hhandler : handler ∈ d.root.places) (h : block ∈ blocks handler) :
    block ∈ d.root.places := by
  obtain ⟨catches, hcatches, hblock⟩ := mem_blocks_iff.mp h
  have hplace : catches ∈ d.root.places :=
    Place.mem_places_of_mem_children hhandler (List.mem_of_find?_eq_some hcatches)
  exact Place.mem_places_of_mem_children hplace hblock

/-- A block belongs to one handler only, whose address is that of the block without its last two
numbers. -/
theorem handler_eq {d : Document} {handler handler' block : Place}
    (hhandler : handler ∈ d.root.places) (hhandler' : handler' ∈ d.root.places)
    (h : block ∈ blocks handler) (h' : block ∈ blocks handler') : handler = handler' := by
  obtain ⟨i, j, haddress⟩ := address_of_mem_blocks h
  obtain ⟨i', j', haddress'⟩ := address_of_mem_blocks h'
  -- Places of one document with the same address are the same, so addresses are enough.
  refine Element.eq_of_address_eq hhandler hhandler' ?_
  rw [haddress] at haddress'
  exact (List.append_inj' haddress' rfl).1

/-- A handler has no block twice: the children of a place have different addresses. -/
theorem nodup_blocks (handler : Place) : (blocks handler).Nodup := by
  rw [blocks]
  cases handler.child? "TryCatch.Catches" with
  | none => exact List.nodup_nil
  | some catches => exact catches.nodup_children

/-- However handlers are nested, no block is met twice: within a handler none is repeated, and two
handlers share none. -/
theorem nodup_handlerBlocks (d : Document) : (handlerBlocks d).Nodup := by
  refine List.nodup_flatMap.mpr ⟨fun handler _ => nodup_blocks handler, ?_⟩
  -- The handlers themselves are met once each, as places of the document.
  have hhandlers : (d.placesOfKind .tryCatch).Nodup := d.root.nodup_places.filter _
  refine hhandlers.imp_of_mem fun {handler handler'} hmem hmem' hne block hblock hblock' => ?_
  exact hne (handler_eq (List.mem_filter.mp hmem).1 (List.mem_filter.mp hmem').1 hblock hblock')

end WorkflowLint.Rule
