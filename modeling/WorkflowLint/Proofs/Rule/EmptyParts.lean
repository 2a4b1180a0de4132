import WorkflowLint.Proofs.RuleChoice
import WorkflowLint.Proofs.Xml.Below
import WorkflowLint.Proofs.Xml.Skeleton

/-!
# `WorkflowLint.Proofs.Rule.EmptyParts`: log messages in parts reported as empty

Four rules report parts of error handlers and branches in which nothing happens. Each of
them goes through elements and reports some of these, one issue for each, in document
order: `emptyTries`, `emptyCatches`, `emptyThens` and `emptyElses` are the elements.

A part that is reported as empty should log nothing (`LogNothing`), and a part that
`LOGIC-001` or `LOGIC-004` reports does not, because nothing is below it. `LOGIC-002` and
`LOGIC-003` ask whether a part is hollow. That is meant for a wrapper with nothing in it, but
any single child without children passes for one. So a part that logs one thing and does
nothing else (`IsLoneLog`) is reported as empty: a branch that logs when its condition holds,
and a catch block that does what the advice of `LOGIC-002` asks for. Of the parts that log
something these are the only ones that are taken to be empty.

`LOGIC-002` looks into the first action of a block only, and a block without an action counts
as empty. What is logged elsewhere in the block is not seen (`LogsAside`), and that is how the
rule is meant.

`emptyParts_logs` puts this together: which parts are reported although they log something,
when `LOG-002` blames a block that counts as empty, and for which workflows nothing of this
happens.
-/

set_option autoImplicit false

namespace WorkflowLint.Rule

open Xml

/-! ### What is reported -/

/-- The issues are about the elements, one issue for each, in order and at its place. -/
def PointAt (issues : List Issue) (elements : List Element) : Prop :=
  issues.map (·.location) = elements.map (·.located)

/-- An issue is made for each element, and it says where the element is. -/
theorem PointAt.map {issue : Element → Issue} (h : ∀ e, (issue e).location = e.located)
    (elements : List Element) : PointAt (elements.map issue) elements := by
  rw [PointAt, List.map_map]
  exact List.map_congr_left fun e _ => h e

/-- Issues about elements that are found in several places point at the elements of one place
after the other. -/
theorem PointAt.flatMap {α : Type} {issues : α → List Issue} {elements : α → List Element}
    (h : ∀ a, PointAt (issues a) (elements a)) (places : List α) :
    PointAt (places.flatMap issues) (places.flatMap elements) := by
  rw [PointAt, List.map_flatMap, List.map_flatMap]
  exact List.flatMap_congr fun a _ => h a

/-- The error handlers that `LOGIC-001` reports. -/
def emptyTries (d : Document) : List Element :=
  (d.ofKind .tryCatch).filter fun handler =>
    (handler.child? "TryCatch.Try").all fun part => part.children.isEmpty

/-- The catch blocks that `LOGIC-002` reports. -/
def emptyCatches (d : Document) : List Element :=
  (d.ofKind .tryCatch).flatMap fun handler => (catchChildren handler).filter isEmptyCatch

/-- The branches that `LOGIC-003` reports. -/
def emptyThens (d : Document) : List Element :=
  (d.ofKind .branch).filter fun branch => (branch.child? "If.Then").all (·.isHollow)

/-- The branches that `LOGIC-004` reports. -/
def emptyElses (d : Document) : List Element :=
  (d.ofKind .branch).filter fun branch =>
    (branch.child? "If.Else").any fun part => part.children.isEmpty

/-- A log message in a catch block of an error handler. -/
structure CaughtLog where
  handler : Element
  block : Element
  log : Element

/-- Where a log message in a catch block is, for people. -/
def CaughtLog.place (c : CaughtLog) : String :=
  s!"TryCatch '{c.handler.display handlerName}' > Catch ({c.log.located})"

/-- The log messages that `LOG-002` reports, with the catch blocks it blames. -/
def quietLogs (d : Document) : List CaughtLog :=
  (d.ofKind .tryCatch).flatMap fun handler =>
    ((catchChildren handler).filter fun c => Text.endsWith "Catch" c.name).flatMap fun block =>
      ((block.belowNamed Kind.logMessage.tags).filter isQuiet).map fun log =>
        ⟨handler, block, log⟩

section
variable (s : Subject)

/-- `LOGIC-001` points, issue by issue, at the error handlers that `emptyTries` lists: a missing
part and one without children are the same to the rule. -/
theorem pointAt_emptyTry : PointAt (emptyTry s) (emptyTries s.document) :=
  .map (fun _ => rfl) _

/-- `LOGIC-002` points, issue by issue, at the catch blocks that `emptyCatches` lists, under the
handlers in the order of the document. -/
theorem pointAt_emptyCatch : PointAt (emptyCatch s) (emptyCatches s.document) :=
  .flatMap (fun _ => .map (fun _ => rfl) _) _

/-- `LOGIC-003` points, issue by issue, at the branches that `emptyThens` lists. -/
theorem pointAt_emptyThen : PointAt (emptyThen s) (emptyThens s.document) :=
  .map (fun _ => rfl) _

/-- `LOGIC-004` points, issue by issue, at the branches that `emptyElses` lists: here a missing
part is no finding, and a part with a single child neither. -/
theorem pointAt_emptyElse : PointAt (emptyElse s) (emptyElses s.document) :=
  .map (fun _ => rfl) _

/-- `LOG-002` reports the messages of `quietLogs`, one issue for each, located by the handler and
the message. -/
theorem locations_catchLogLevel :
    (catchLogLevel s).map (·.location) = (quietLogs s.document).map (·.place) := by
  simp only [catchLogLevel, quietLogs, List.map_flatMap, List.map_map]
  rfl

end

/-! ### What is logged -/

/-- No log message is below the element. -/
def Silent (e : Element) : Prop := ∀ log ∈ e.below, log.kind ≠ .logMessage

/-- The only child of a part is a log message, and there is nothing in the log message. -/
def IsLoneLog (part : Element) : Prop :=
  ∃ log, part.children = [log] ∧ log.children = [] ∧ log.kind = .logMessage

instance (part : Element) : Decidable (IsLoneLog part) :=
  match hchildren : part.children with
  | [] => isFalse (by simp [IsLoneLog, hchildren])
  | [log] =>
    decidable_of_iff (log.children = [] ∧ log.kind = .logMessage) (by simp [IsLoneLog, hchildren])
  | _ :: _ :: _ => isFalse (by simp [IsLoneLog, hchildren])

/-- A log message in a catch block is not in the first action of the block. -/
def IsAside (block log : Element) : Prop :=
  ∀ action ∈ block.child? "ActivityAction", log ∉ action.below

/-- Something is logged in a catch block, but not in its first action. -/
def LogsAside (block : Element) : Prop :=
  ∃ log ∈ block.below, log.kind = .logMessage ∧ IsAside block log

/-- What reports of empty parts suggest: nothing is logged in the part, which for a catch block
is the whole block. -/
structure LogNothing (d : Document) : Prop where
  tries : ∀ handler ∈ emptyTries d, ∀ part ∈ handler.child? "TryCatch.Try", Silent part
  catches : ∀ block ∈ emptyCatches d, Silent block
  thens : ∀ branch ∈ emptyThens d, ∀ part ∈ branch.child? "If.Then", Silent part
  elses : ∀ branch ∈ emptyElses d, ∀ part ∈ branch.child? "If.Else", Silent part

/-- Nothing is logged where there are no elements at all, because nothing is below then. -/
theorem silent_of_childless {e : Element} (h : e.children.isEmpty = true) : Silent e := by
  intro log hlog
  rw [e.below_eq_nil_iff.mpr (List.isEmpty_iff.mp h)] at hlog
  cases hlog

/-- A part that is a lone log message logs something, as the message is below it. -/
theorem IsLoneLog.not_silent {part : Element} (h : IsLoneLog part) : ¬Silent part := by
  obtain ⟨log, hchildren, hchildless, hkind⟩ := h
  have hbelow : part.below = [log] := Element.below_eq_singleton_iff.mpr ⟨hchildren, hchildless⟩
  exact fun hsilent => hsilent log (hbelow ▸ List.mem_singleton_self log) hkind

/-- Counting children, a lone log message cannot be told from an empty wrapper. -/
theorem IsLoneLog.isHollow {part : Element} (h : IsLoneLog part) : part.isHollow = true := by
  obtain ⟨log, hchildren, hchildless, -⟩ := h
  rw [part.isHollow_iff, Element.below_eq_singleton_iff.mpr ⟨hchildren, hchildless⟩]
  exact Nat.le_refl 1

/-- A hollow part logs something exactly if it is a lone log message: the log message is below
the part, and nothing else fits there. -/
theorem not_silent_iff_isLoneLog {part : Element} (h : part.isHollow = true) :
    ¬Silent part ↔ IsLoneLog part := by
  refine ⟨fun hlogs => ?_, IsLoneLog.not_silent⟩
  simp only [Silent, not_forall, not_not] at hlogs
  obtain ⟨log, hlog, hkind⟩ := hlogs
  obtain ⟨hchildren, hchildless⟩ :=
    Element.below_eq_singleton_iff.mp (Element.below_eq_singleton h hlog)
  exact ⟨log, hchildren, hchildless, hkind⟩

/-- So the parts that are hollow and log something are the lone log messages. -/
theorem isHollow_and_not_silent_iff {part : Element} :
    part.isHollow = true ∧ ¬Silent part ↔ IsLoneLog part :=
  ⟨fun h => (not_silent_iff_isLoneLog h.1).mp h.2, fun h => ⟨h.isHollow, h.not_silent⟩⟩

section
variable {d : Document}

/-! ### Parts of handlers and branches -/

/-- A `TryCatch.Try` is reported when it has no children, so nothing is logged in it. Here a child
that is empty itself would count. -/
theorem silent_of_mem_emptyTries {handler part : Element} (h : handler ∈ emptyTries d)
    (hpart : part ∈ handler.child? "TryCatch.Try") : Silent part := by
  obtain ⟨-, hempty⟩ := List.mem_filter.mp h
  exact silent_of_childless ((Option.all_eq_true _ _).mp hempty part hpart)

/-- An `If.Else` is reported when it has no children, too, and only if it is there. -/
theorem silent_of_mem_emptyElses {branch part : Element} (h : branch ∈ emptyElses d)
    (hpart : part ∈ branch.child? "If.Else") : Silent part := by
  obtain ⟨-, hempty⟩ := List.mem_filter.mp h
  -- Unlike the other parts this one has to be there, and it is the part at hand.
  rw [hpart] at hempty
  exact silent_of_childless hempty

/-- A branch with a part is reported when the part is hollow. -/
theorem mem_emptyThens_iff {branch part : Element} (hbranch : branch ∈ d.ofKind .branch)
    (hpart : part ∈ branch.child? "If.Then") :
    branch ∈ emptyThens d ↔ part.isHollow = true := by
  rw [emptyThens, List.mem_filter, and_iff_right hbranch, hpart, Option.all_some]

/-- A block of an error handler is reported when its first action is hollow or missing. The same
block may be met again at another handler, with the same answer. -/
theorem mem_emptyCatches_iff {handler block : Element} (hhandler : handler ∈ d.ofKind .tryCatch)
    (hblock : block ∈ catchChildren handler) :
    block ∈ emptyCatches d ↔ ∀ action ∈ block.child? "ActivityAction", action.isHollow = true := by
  have hempty : isEmptyCatch block = true ↔
      ∀ action ∈ block.child? "ActivityAction", action.isHollow = true := Option.all_eq_true _ _
  rw [← hempty, emptyCatches, List.mem_flatMap]
  constructor
  · rintro ⟨_, -, hmem⟩
    exact (List.mem_filter.mp hmem).2
  · intro hempty
    exact ⟨handler, hhandler, List.mem_filter.mpr ⟨hblock, hempty⟩⟩

/-- The blocks that are reported are blocks of error handlers: the rule goes through the handlers
of the document and the blocks of each. -/
theorem exists_handler_of_mem_emptyCatches {block : Element} (h : block ∈ emptyCatches d) :
    ∃ handler ∈ d.ofKind .tryCatch, block ∈ catchChildren handler := by
  obtain ⟨handler, hhandler, hblock⟩ := List.mem_flatMap.mp h
  exact ⟨handler, hhandler, List.mem_of_mem_filter hblock⟩

/-- The first action of a block that is reported is hollow. -/
theorem isHollow_of_mem_emptyCatches {block action : Element} (h : block ∈ emptyCatches d)
    (haction : action ∈ block.child? "ActivityAction") : action.isHollow = true := by
  obtain ⟨handler, hhandler, hblock⟩ := exists_handler_of_mem_emptyCatches h
  exact (mem_emptyCatches_iff hhandler hblock).mp h action haction

/-- A log message in a block that is reported is not in the action, or it is the lone log message
that the action is. -/
theorem isAside_or_isLoneLog {block log : Element} (h : block ∈ emptyCatches d)
    (hkind : log.kind = .logMessage) :
    IsAside block log ∨ ∃ action ∈ block.child? "ActivityAction", IsLoneLog action := by
  by_cases haside : IsAside block log
  · exact .inl haside
  · simp only [IsAside, not_forall, not_not] at haside
    obtain ⟨action, haction, hlog⟩ := haside
    -- A hollow action with a log message below it has room for nothing else.
    have hlogs : ¬Silent action := fun hsilent => hsilent log hlog hkind
    have hhollow := isHollow_of_mem_emptyCatches h haction
    exact .inr ⟨action, haction, (not_silent_iff_isLoneLog hhollow).mp hlogs⟩

/-- A block that is reported logs something exactly if it does so aside or its action is a lone
log message. -/
theorem not_silent_iff_of_mem_emptyCatches {block : Element} (h : block ∈ emptyCatches d) :
    ¬Silent block ↔
      LogsAside block ∨ ∃ action ∈ block.child? "ActivityAction", IsLoneLog action := by
  constructor
  · intro hlogs
    simp only [Silent, not_forall, not_not] at hlogs
    obtain ⟨log, hlog, hkind⟩ := hlogs
    exact (isAside_or_isLoneLog h hkind).imp_left fun haside => ⟨log, hlog, hkind, haside⟩
  · rintro (⟨log, hlog, hkind, -⟩ | ⟨action, haction, hlone⟩) hsilent
    · exact hsilent log hlog hkind
    · -- What is below the action is below the block.
      exact hlone.not_silent fun log hlog =>
        hsilent log (Element.mem_below_of_mem_child? haction hlog)

/-- What `LOG-002` reports is a log message in the block that it blames. -/
theorem mem_below_of_mem_quietLogs {quiet : CaughtLog} (h : quiet ∈ quietLogs d) :
    quiet.log ∈ quiet.block.below ∧ quiet.log.kind = .logMessage := by
  obtain ⟨handler, -, hblocks⟩ := List.mem_flatMap.mp h
  obtain ⟨block, -, hlogs⟩ := List.mem_flatMap.mp hblocks
  obtain ⟨log, hlog, rfl⟩ := List.mem_map.mp hlogs
  obtain ⟨hnamed, -⟩ := List.mem_filter.mp hlog
  obtain ⟨hbelow, hname⟩ := List.mem_filter.mp hnamed
  have hname : log.name = "LogMessage" := by simpa [Kind.tags] using hname
  exact ⟨hbelow, by rw [Element.kind, hname]; rfl⟩

/-! ### How far the rules agree -/

/-- A document in which no reported part logs anything is one without lone log messages in the
parts that the rules look at, and without blocks that are reported and log something aside. -/
theorem logNothing_iff :
    LogNothing d ↔
      (∀ branch ∈ d.ofKind .branch, ∀ part ∈ branch.child? "If.Then", ¬IsLoneLog part) ∧
      (∀ handler ∈ d.ofKind .tryCatch, ∀ block ∈ catchChildren handler,
        ∀ action ∈ block.child? "ActivityAction", ¬IsLoneLog action) ∧
      ∀ block ∈ emptyCatches d, ¬LogsAside block := by
  constructor
  · intro h
    refine ⟨fun branch hbranch part hpart hlone => ?_,
      fun handler hhandler block hblock action haction hlone => ?_,
      fun block hblock haside => ?_⟩
    -- A lone log message would be reported, and the report would be wrong.
    · have hmem := (mem_emptyThens_iff hbranch hpart).mpr hlone.isHollow
      exact hlone.not_silent (h.thens branch hmem part hpart)
    · have hmem : block ∈ emptyCatches d := by
        rw [mem_emptyCatches_iff hhandler hblock, haction]
        -- A block has at most one first action, and it is this one.
        rintro _ ⟨⟩
        exact hlone.isHollow
      exact (not_silent_iff_of_mem_emptyCatches hmem).mpr (.inr ⟨action, haction, hlone⟩)
        (h.catches block hmem)
    · exact (not_silent_iff_of_mem_emptyCatches hblock).mpr (.inl haside) (h.catches block hblock)
  -- The rules for `TryCatch.Try` and `If.Else` look for childless parts, so only the other two
  -- can blame something that logs.
  · rintro ⟨hthens, hactions, hasides⟩
    refine
      { tries := fun _ h _ => silent_of_mem_emptyTries h
        catches := fun block hmem => ?_
        thens := fun branch hmem part hpart => ?_
        elses := fun _ h _ => silent_of_mem_emptyElses h }
    · obtain ⟨handler, hhandler, hblock⟩ := exists_handler_of_mem_emptyCatches hmem
      by_contra hlogs
      obtain haside | ⟨action, haction, hlone⟩ := (not_silent_iff_of_mem_emptyCatches hmem).mp hlogs
      · exact hasides block hmem haside
      · exact hactions handler hhandler block hblock action haction hlone
    · have hbranch : branch ∈ d.ofKind .branch := List.mem_of_mem_filter hmem
      have hhollow := (mem_emptyThens_iff hbranch hpart).mp hmem
      by_contra hlogs
      exact hthens branch hbranch part hpart ((not_silent_iff_isLoneLog hhollow).mp hlogs)

end

/-- Which parts are reported as empty although they log something.

* Nothing is logged in the first `TryCatch.Try` of an error handler that `LOGIC-001` reports, and
  nothing in the first `If.Else` of a branch that `LOGIC-004` reports.
* The first `If.Then` of a branch that `LOGIC-003` reports logs something exactly if it is a lone
  log message, and every branch with such a part is reported.
* The same holds of `LOGIC-002` and the first `ActivityAction` of a catch block. Besides, a block
  without an action is reported whatever is in it, so a block that is reported logs something
  exactly if its action is a lone log message or it logs something aside.
* `LOG-002` reports log messages in the blocks that it blames. If such a block is reported as
  empty as well, then the log message stands aside or the action is a lone log message.
* So nothing is logged in any of the reported parts exactly if no `If.Then` and no action is a lone
  log message and no block that is reported logs anything aside. -/
theorem emptyParts_logs (d : Document) (t : Thresholds) :
    (PointAt (emptyTry (.of d t)) (emptyTries d) ∧
      ∀ handler ∈ emptyTries d, ∀ part ∈ handler.child? "TryCatch.Try", Silent part) ∧
    (PointAt (emptyElse (.of d t)) (emptyElses d) ∧
      ∀ branch ∈ emptyElses d, ∀ part ∈ branch.child? "If.Else", Silent part) ∧
    (PointAt (emptyThen (.of d t)) (emptyThens d) ∧
      ∀ branch ∈ d.ofKind .branch, ∀ part ∈ branch.child? "If.Then",
        branch ∈ emptyThens d ∧ ¬Silent part ↔ IsLoneLog part) ∧
    (PointAt (emptyCatch (.of d t)) (emptyCatches d) ∧
      (∀ handler ∈ d.ofKind .tryCatch, ∀ block ∈ catchChildren handler,
        (block.child? "ActivityAction" = none → block ∈ emptyCatches d) ∧
        ∀ action ∈ block.child? "ActivityAction",
          block ∈ emptyCatches d ∧ ¬Silent action ↔ IsLoneLog action) ∧
      ∀ block ∈ emptyCatches d, ¬Silent block ↔
        LogsAside block ∨ ∃ action ∈ block.child? "ActivityAction", IsLoneLog action) ∧
    ((catchLogLevel (.of d t)).map (·.location) = (quietLogs d).map (·.place) ∧
      ∀ quiet ∈ quietLogs d, quiet.log ∈ quiet.block.below ∧ quiet.log.kind = .logMessage ∧
        (quiet.block ∈ emptyCatches d → IsAside quiet.block quiet.log ∨
          ∃ action ∈ quiet.block.child? "ActivityAction", IsLoneLog action)) ∧
    (LogNothing d ↔
      (∀ branch ∈ d.ofKind .branch, ∀ part ∈ branch.child? "If.Then", ¬IsLoneLog part) ∧
      (∀ handler ∈ d.ofKind .tryCatch, ∀ block ∈ catchChildren handler,
        ∀ action ∈ block.child? "ActivityAction", ¬IsLoneLog action) ∧
      ∀ block ∈ emptyCatches d, ¬LogsAside block) := by
  refine ⟨⟨pointAt_emptyTry _, fun _ h _ => silent_of_mem_emptyTries h⟩,
    ⟨pointAt_emptyElse _, fun _ h _ => silent_of_mem_emptyElses h⟩,
    ⟨pointAt_emptyThen _, fun branch hbranch part hpart => ?_⟩,
    ⟨pointAt_emptyCatch _, fun handler hhandler block hblock => ⟨fun hnone => ?_,
      fun action haction => ?_⟩, fun block h => not_silent_iff_of_mem_emptyCatches h⟩,
    ⟨locations_catchLogLevel _, fun quiet hquiet => ?_⟩, logNothing_iff⟩
  · rw [mem_emptyThens_iff hbranch hpart, isHollow_and_not_silent_iff]
  · rw [mem_emptyCatches_iff hhandler hblock, hnone]
    -- Without an action there is nothing to be hollow.
    rintro _ ⟨⟩
  · have hmem : block ∈ emptyCatches d ↔ action.isHollow = true := by
      rw [mem_emptyCatches_iff hhandler hblock, haction]
      simp
    rw [hmem, isHollow_and_not_silent_iff]
  · obtain ⟨hbelow, hkind⟩ := mem_below_of_mem_quietLogs hquiet
    exact ⟨hbelow, hkind, fun hblock => isAside_or_isLoneLog hblock hkind⟩

/-- A workflow with a branch and two catch blocks that log one thing each and do nothing else. -/
def loneLogs : String :=
  "<A><TryCatch><TryCatch.Catches>" ++
  "<Catch><ActivityAction><LogMessage Level=\"Error\"/></ActivityAction></Catch>" ++
  "<Catch><ActivityAction><LogMessage/></ActivityAction></Catch></TryCatch.Catches></TryCatch>" ++
  "<If><If.Then><LogMessage/></If.Then></If></A>"

/-- The branch and the two blocks are reported as empty, and yet all of them log something. For the
second block `LOG-002` says so itself. -/
theorem emptyParts_logs_loneLogs :
    ∃ d, Document.read loneLogs "Main.xaml" = .ok d ∧
      (emptyThen (.of d {})).map (·.location) = ["If (line 1)"] ∧
      (∃ branch ∈ emptyThens d, ∃ part ∈ branch.child? "If.Then", ¬Silent part) ∧
      (emptyCatch (.of d {})).map (·.location) = ["Catch (line 1)", "Catch (line 1)"] ∧
      (∀ block ∈ emptyCatches d, ¬Silent block) ∧
      (∃ quiet ∈ quietLogs d, quiet.block ∈ emptyCatches d ∧
        ∃ action ∈ quiet.block.child? "ActivityAction", IsLoneLog action) ∧
      ¬LogNothing d := by
  obtain ⟨d, hread, hthenTexts, ⟨branch, hbranch, part, hpart, hlone⟩, hcatchTexts, hactions,
    hquiet⟩ :
      ∃ d, Document.read loneLogs "Main.xaml" = .ok d ∧
        (emptyThens d).map (·.located) = ["If (line 1)"] ∧
        (∃ branch ∈ d.ofKind .branch, ∃ part ∈ branch.child? "If.Then", IsLoneLog part) ∧
        (emptyCatches d).map (·.located) = ["Catch (line 1)", "Catch (line 1)"] ∧
        (∀ block ∈ emptyCatches d, ∃ action ∈ block.child? "ActivityAction", IsLoneLog action) ∧
        ∃ quiet ∈ quietLogs d, quiet.block ∈ emptyCatches d :=
    -- The document is read and the reports are computed; that the parts log something is the
    -- theorem's.
    exists_ok_of_any (by decide +kernel)
  obtain ⟨-, -, ⟨hpointThens, hthens⟩, ⟨hpointCatches, -, hblocks⟩, -, hnothing⟩ :=
    emptyParts_logs d {}
  obtain ⟨quiet, hmem, hblock⟩ := hquiet
  obtain ⟨hreported, hlogs⟩ := (hthens branch hbranch part hpart).mpr hlone
  refine ⟨d, hread, hpointThens.trans hthenTexts, ⟨branch, hreported, part, hpart, hlogs⟩,
    hpointCatches.trans hcatchTexts,
    fun block h => (hblocks block h).mpr (.inr (hactions block h)),
    ⟨quiet, hmem, hblock, hactions quiet.block hblock⟩, fun h => ?_⟩
  exact (hnothing.mp h).1 branch hbranch part hpart hlone

end WorkflowLint.Rule
