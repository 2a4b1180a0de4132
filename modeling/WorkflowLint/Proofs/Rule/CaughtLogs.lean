import Mathlib.Data.Finset.Card
import WorkflowLint.Proofs.Rule.CatchBlocks
import WorkflowLint.Proofs.Rule.EmptyParts
import WorkflowLint.Proofs.Xml.Place

/-!
# `WorkflowLint.Proofs.Rule.CaughtLogs`: how often a log message is reported

`LOG-002` goes through the error handlers of a document, through the catch blocks of each and
through the log messages below each block. Error handlers may be nested: a catch block of one
may contain another one with catch blocks of its own. A log message in an inner block is then
below the outer block too, and it is found from both.

Two log messages can look the same, so the reports are counted by places: `reports` is the walk
of the rule with the places that it comes through (`map_reports`). No step of the walk is taken
twice (`nodup_reports`), because a block belongs to one handler. So for a log message that
hides an error, the rule makes one report for each catch block that the message is below, and
no other ones: `catchLogLevel_blames`. The message is reported at most once exactly when it is
not below two catch blocks (`length_blamed_le_one_iff`).
-/

set_option autoImplicit false

namespace WorkflowLint.Rule

open Xml

/-! ### The walk of the rule -/

/-- The catch blocks of an error handler: the children with a name that ends in `Catch` of its
first `TryCatch.Catches`. -/
def catchBlocks (handler : Place) : List Place :=
  (((handler.child? "TryCatch.Catches").map (·.children)).getD []).filter fun c =>
    Text.endsWith "Catch" c.element.name

/-- The log messages below a block that hide an error. -/
def quietBelow (block : Place) : List Place :=
  (block.below.filter fun p => Kind.logMessage.tags.contains p.element.name).filter fun p =>
    isQuiet p.element

/-- A log message that is reported, and the block and the handler it is found from. -/
structure Report where
  handler : Place
  block : Place
  log : Place

/-- A report without its places. -/
def Report.caught (r : Report) : CaughtLog := ⟨r.handler.element, r.block.element, r.log.element⟩

/-- The reports on a document in the order in which they are made. -/
def reports (d : Document) : List Report :=
  (d.root.places.filter fun p => p.element.kind == .tryCatch).flatMap fun handler =>
    (catchBlocks handler).flatMap fun block => (quietBelow block).map fun log =>
      ⟨handler, block, log⟩

/-- Without its places the walk comes through the blocks that the rule goes through. -/
theorem map_catchBlocks (handler : Place) :
    (catchBlocks handler).map (·.element)
      = (catchChildren handler.element).filter fun c => Text.endsWith "Catch" c.name := by
  rw [← map_blocks, List.filter_map]
  rfl

/-- Without their places these are the log messages that the rule finds below a block. -/
theorem map_quietBelow (block : Place) :
    (quietBelow block).map (·.element)
      = (block.element.belowNamed Kind.logMessage.tags).filter isQuiet := by
  rw [Element.belowNamed, ← Place.map_below, List.filter_map, List.filter_map]
  rfl

/-- The walk comes through the log messages that the rule reports, in the same order and as
often. -/
theorem map_reports (d : Document) : (reports d).map (·.caught) = quietLogs d := by
  rw [reports, quietLogs, ← d.map_placesOfKind, List.map_flatMap, List.flatMap_map]
  refine List.flatMap_congr fun handler _ => ?_
  rw [List.map_flatMap, ← map_catchBlocks, List.flatMap_map]
  refine List.flatMap_congr fun block _ => ?_
  rw [List.map_map, ← map_quietBelow, List.map_map]
  rfl

/-! ### Blocks and messages -/

/-- A place is a catch block: a child, with a name that ends in `Catch`, of the first
`TryCatch.Catches` of an error handler. -/
def IsCatchBlock (d : Document) (block : Place) : Prop :=
  ∃ handler ∈ d.root.places, handler.element.kind = .tryCatch ∧
    ∃ catches ∈ handler.child? "TryCatch.Catches", block ∈ catches.children ∧
      "Catch".toList <:+ block.element.name.toList

/-- An element is a log message that hides an error: it has no level, or one with a word in
it that stands for a quiet level. -/
def IsQuietLog (log : Element) : Prop :=
  log.name = "LogMessage" ∧
    ∀ level ∈ log.attr? "Level", ∃ quiet ∈ quietLevels, quiet.toList <:+: level.toList

/-- A log message that hides an error is below a catch block. -/
def Blames (d : Document) (block log : Place) : Prop :=
  IsCatchBlock d block ∧ log ∈ block.below ∧ IsQuietLog log.element

/-- What it means to be a catch block of a handler. The first part with the name counts, and only
children whose name ends in `Catch`. -/
theorem mem_catchBlocks_iff {handler block : Place} :
    block ∈ catchBlocks handler ↔ ∃ catches ∈ handler.child? "TryCatch.Catches",
      block ∈ catches.children ∧ "Catch".toList <:+ block.element.name.toList := by
  have hmem : block ∈ catchBlocks handler ↔
      block ∈ blocks handler ∧ Text.endsWith "Catch" block.element.name = true := List.mem_filter
  rw [hmem, mem_blocks_iff, Text.endsWith, List.isSuffixOf_iff_suffix]
  simp only [← exists_and_right, and_assoc]

/-- A log message is quiet if it has no level, or a level with a quiet word in it. Without a level
the condition is empty. -/
theorem isQuiet_iff {log : Element} :
    isQuiet log = true ↔
      ∀ level ∈ log.attr? "Level", ∃ quiet ∈ quietLevels, quiet.toList <:+: level.toList := by
  unfold isQuiet
  cases log.attr? "Level" with
  | none => simp
  | some level => simp [List.any_eq_true, Text.occurs, Text.occursIn_iff]

/-- What the rule finds below a block are the log messages there that hide an error. -/
theorem mem_quietBelow_iff {block log : Place} :
    log ∈ quietBelow block ↔ log ∈ block.below ∧ IsQuietLog log.element := by
  rw [quietBelow, List.mem_filter, List.mem_filter, isQuiet_iff, and_assoc]
  refine and_congr_right fun _ => and_congr_left fun _ => ?_
  simp [Kind.tags]

/-- A report is made of a handler of the document, one of its blocks, and a quiet log message
below that block; every such triple is reported. -/
theorem mem_reports_iff {d : Document} {r : Report} :
    r ∈ reports d ↔ r.handler ∈ d.root.places ∧ r.handler.element.kind = .tryCatch ∧
      r.block ∈ catchBlocks r.handler ∧ r.log ∈ quietBelow r.block := by
  rw [reports, List.mem_flatMap]
  constructor
  · rintro ⟨handler, hhandler, hr⟩
    obtain ⟨block, hblock, hr⟩ := List.mem_flatMap.mp hr
    obtain ⟨log, hlog, rfl⟩ := List.mem_map.mp hr
    obtain ⟨hplace, hkind⟩ := List.mem_filter.mp hhandler
    exact ⟨hplace, beq_iff_eq.mp hkind, hblock, hlog⟩
  · rintro ⟨hplace, hkind, hblock, hlog⟩
    exact ⟨r.handler, List.mem_filter.mpr ⟨hplace, beq_iff_eq.mpr hkind⟩,
      List.mem_flatMap.mpr ⟨r.block, hblock, List.mem_map.mpr ⟨r.log, hlog, rfl⟩⟩⟩

/-- Catch blocks are among the children that other rules go through. -/
theorem mem_blocks_of_mem_catchBlocks {handler block : Place} (h : block ∈ catchBlocks handler) :
    block ∈ blocks handler :=
  List.mem_of_mem_filter h

/-- What is reported stands in the document, at a place of its own. -/
theorem log_mem_places {d : Document} {r : Report} (h : r ∈ reports d) : r.log ∈ d.root.places := by
  obtain ⟨hhandler, -, hblock, hlog⟩ := mem_reports_iff.mp h
  have hplace := mem_places_of_mem_blocks hhandler (mem_blocks_of_mem_catchBlocks hblock)
  exact Place.mem_places_of_mem_below hplace (mem_quietBelow_iff.mp hlog).1

/-! ### Counting reports -/

/-- The walk comes to each block of a handler once, since they are different children of one
part. -/
theorem nodup_catchBlocks (handler : Place) : (catchBlocks handler).Nodup :=
  (nodup_blocks handler).filter _

/-- No report is made twice. Two steps of the walk differ in the handler, in the block or in the
log message. -/
theorem nodup_reports (d : Document) : (reports d).Nodup := by
  refine List.nodup_flatMap.mpr ⟨fun handler _ => List.nodup_flatMap.mpr ⟨fun block _ => ?_, ?_⟩, ?_⟩
  -- Within a block the reports differ in the log message.
  · have hbelow : (quietBelow block).Nodup := (block.nodup_below.filter _).filter _
    exact hbelow.map fun log log' h => (Report.mk.inj h).2.2
  · -- Reports from different blocks of a handler differ in the block.
    refine (nodup_catchBlocks handler).imp fun {block block'} hne r hr hr' => ?_
    obtain ⟨log, -, rfl⟩ := List.mem_map.mp hr
    obtain ⟨log', -, h⟩ := List.mem_map.mp hr'
    exact hne (Report.mk.inj h).2.1.symm
  · -- Reports from different handlers differ in the handler.
    refine (d.root.nodup_places.filter _).imp fun {handler handler'} hne r hr hr' => ?_
    obtain ⟨block, -, hr⟩ := List.mem_flatMap.mp hr
    obtain ⟨log, -, rfl⟩ := List.mem_map.mp hr
    obtain ⟨block', -, hr'⟩ := List.mem_flatMap.mp hr'
    obtain ⟨log', -, h⟩ := List.mem_map.mp hr'
    exact hne (Report.mk.inj h).1.symm

/-- The blocks that a log message is reported for, one for each report. -/
def blamed (d : Document) (log : Place) : List Place :=
  ((reports d).filter fun r => r.log.address == log.address).map (·.block)

/-- No block is listed twice for a log message. A block could only be repeated with another
handler, but it is a child of one handler alone. -/
theorem nodup_blamed (d : Document) (log : Place) : (blamed d log).Nodup := by
  refine ((nodup_reports d).filter _).map_on fun r hr r' hr' hblock => ?_
  obtain ⟨hr, hlog⟩ := List.mem_filter.mp hr
  obtain ⟨hr', hlog'⟩ := List.mem_filter.mp hr'
  -- The block tells the handler, and the two reports are about the same log message.
  have hhandlers : r.handler = r'.handler := by
    obtain ⟨hplace, -, hmem, -⟩ := mem_reports_iff.mp hr
    obtain ⟨hplace', -, hmem', -⟩ := mem_reports_iff.mp hr'
    exact handler_eq hplace hplace' (mem_blocks_of_mem_catchBlocks hmem)
      (mem_blocks_of_mem_catchBlocks (hblock ▸ hmem'))
  have hlogs : r.log = r'.log := by
    refine Element.eq_of_address_eq (log_mem_places hr) (log_mem_places hr') ?_
    rw [beq_iff_eq.mp hlog, beq_iff_eq.mp hlog']
  obtain ⟨handler, block, message⟩ := r
  obtain ⟨handler', block', message'⟩ := r'
  rw [Report.mk.injEq]
  exact ⟨hhandlers, hblock, hlogs⟩

/-- The blocks for which a log message is reported are those that it is below, if it hides an
error. -/
theorem mem_blamed_iff {d : Document} {log : Place} (hlog : log ∈ d.root.places) {block : Place} :
    block ∈ blamed d log ↔ Blames d block log := by
  rw [blamed, List.mem_map]
  constructor
  · rintro ⟨r, hr, rfl⟩
    obtain ⟨hreport, haddress⟩ := List.mem_filter.mp hr
    have hsame : r.log = log :=
      Element.eq_of_address_eq (log_mem_places hreport) hlog (beq_iff_eq.mp haddress)
    obtain ⟨hhandler, hkind, hblock, hquiet⟩ := mem_reports_iff.mp hreport
    rw [hsame] at hquiet
    exact ⟨⟨r.handler, hhandler, hkind, mem_catchBlocks_iff.mp hblock⟩,
      mem_quietBelow_iff.mp hquiet⟩
  -- The report is made from the handler that the block belongs to.
  · rintro ⟨⟨handler, hhandler, hkind, hblock⟩, hquiet⟩
    have hr : (⟨handler, block, log⟩ : Report) ∈ reports d :=
      mem_reports_iff.mpr ⟨hhandler, hkind, mem_catchBlocks_iff.mpr hblock,
        mem_quietBelow_iff.mpr hquiet⟩
    exact ⟨⟨handler, block, log⟩, List.mem_filter.mpr ⟨hr, beq_self_eq_true _⟩, rfl⟩

/-- A log message is reported at most once exactly when it is not below two catch blocks. The
blocks are distinct, so their number is that of a finite set. -/
theorem length_blamed_le_one_iff {d : Document} {log : Place} (hlog : log ∈ d.root.places) :
    (blamed d log).length ≤ 1 ↔
      ∀ block block', Blames d block log → Blames d block' log → block = block' := by
  have hcard : (blamed d log).length ≤ 1 ↔
      ∀ block ∈ blamed d log, ∀ block' ∈ blamed d log, block = block' :=
    Finset.card_le_one (s := ⟨(blamed d log : Multiset Place), nodup_blamed d log⟩)
  simp only [hcard, mem_blamed_iff hlog]
  exact ⟨fun h block block' hb hb' => h block hb block' hb', fun h b hb b' hb' => h b b' hb hb'⟩

/-- The rule reports log messages of the document, at the places where its walk finds them. A
log message is reported once for each catch block that it is below, if it hides an error,
and else not at all. So it is reported at most once exactly when it is not below two catch
blocks. -/
theorem catchLogLevel_blames (d : Document) (t : Thresholds) :
    ((catchLogLevel (.of d t)).map (·.location) = (reports d).map (·.caught.place) ∧
      ∀ r ∈ reports d, r.log ∈ d.root.places) ∧
    ∀ log ∈ d.root.places,
      (blamed d log).Nodup ∧ (∀ block, block ∈ blamed d log ↔ Blames d block log) ∧
      ((blamed d log).length ≤ 1 ↔ ∀ block block', Blames d block log → Blames d block' log →
        block = block') := by
  refine ⟨⟨?_, fun r hr => log_mem_places hr⟩, fun log hlog => ⟨nodup_blamed d log,
    fun block => mem_blamed_iff hlog, length_blamed_le_one_iff hlog⟩⟩
  rw [locations_catchLogLevel, Subject.of, ← map_reports, List.map_map]
  rfl

/-- A workflow with an error handler in a catch block of another one. -/
def nestedHandlers : String :=
  "<A><TryCatch><TryCatch.Catches><Catch><LogMessage DisplayName=\"Outer\" Level=\"Trace\"/>" ++
  "<TryCatch><TryCatch.Catches><Catch><LogMessage DisplayName=\"Inner\"/></Catch>" ++
  "</TryCatch.Catches></TryCatch></Catch></TryCatch.Catches></TryCatch></A>"

/-- The first log message is reported once. The second one is below two catch blocks and is
reported twice, by two issues that are the same. -/
theorem catchLogLevel_blames_nestedHandlers :
    ∃ d, Document.read nestedHandlers "Main.xaml" = .ok d ∧
      (catchLogLevel (.of d {})).length = 3 ∧
      (catchLogLevel (.of d {}))[1]? = (catchLogLevel (.of d {}))[2]? ∧
      (∃ log ∈ d.root.places, (∃ block, Blames d block log) ∧
        ∀ block block', Blames d block log → Blames d block' log → block = block') ∧
      ∃ log ∈ d.root.places, (blamed d log).length = 2 ∧
        ∃ block block', Blames d block log ∧ Blames d block' log ∧ block ≠ block' := by
  have hread : ∃ d, Document.read nestedHandlers "Main.xaml" = .ok d ∧
      (catchLogLevel (.of d {})).length = 3 ∧
      (catchLogLevel (.of d {}))[1]? = (catchLogLevel (.of d {}))[2]? ∧
      (∃ log ∈ d.root.places, (blamed d log).length = 1) ∧
      ∃ log ∈ d.root.places, (blamed d log).length = 2 :=
    exists_ok_of_any (by decide +kernel)
  obtain ⟨d, hread, hlength, hsame, ⟨once, honce, hone⟩, twice, htwice, htwo⟩ := hread
  obtain ⟨-, hblames⟩ := catchLogLevel_blames d {}
  refine ⟨d, hread, hlength, hsame, ⟨once, honce, ?_⟩, twice, htwice, htwo, ?_⟩
  -- Once: there is a block, and no second one.
  · obtain ⟨-, hmem, hatMostOnce⟩ := hblames once honce
    obtain ⟨block, hblock⟩ := List.exists_mem_of_length_pos (by omega : 0 < (blamed d once).length)
    exact ⟨⟨block, (hmem block).mp hblock⟩, hatMostOnce.mp (by omega)⟩
  -- Twice: so two blocks exist that are not the same.
  · obtain ⟨-, -, hatMostOnce⟩ := hblames twice htwice
    have hmore := mt hatMostOnce.mpr (by omega)
    push Not at hmore
    obtain ⟨block, block', hblock, hblock', hne⟩ := hmore
    exact ⟨block, block', hblock, hblock', hne⟩

end WorkflowLint.Rule
