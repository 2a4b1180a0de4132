import WorkflowLint.Proofs.RuleChoice
import WorkflowLint.Proofs.Kind
import WorkflowLint.Proofs.Xml.Sibling

/-!
# `WorkflowLint.Proofs.Rule.HurriedClicks`: clicks that nothing waits for

`WEB-003` goes through the clicks of a document in document order. For a click that sends
something off it looks whether the click has a parent, then for the next sibling, and it
reports the click unless that sibling is a delay. Clicks can be nested in clicks, can be last
among their siblings and can be the root element.

`hurriedClicks` is the walk of the rule with the places that it comes through, each click with
what follows it. It comes through the pairs of consecutive siblings of which the first is a
click that sends something off and the second is no delay, and through no others
(`mem_hurriedClicks_iff`); it takes them in document order and each click once
(`map_fst_hurriedClicks_sublist`). The rule makes one report for each step of the walk
(`reports_postClickDelay`). It never depends on whether the click has a parent, because
siblings have one.
-/

set_option autoImplicit false

namespace WorkflowLint.Rule

open Xml

/-! ### Clicks that send something off -/

/-- An element is a click that sends something off: people gave it a name, which holds one of
the telling words in any case. -/
structure SendsOff (e : Element) : Prop where
  click : e.name = "Click" ∨ e.name = "NClick"
  named : ∃ name ∈ e.attr? "DisplayName", ∃ word ∈ slowClickWords,
    word.toList <:+: (Text.lower name).toList

/-- Clicks have one of two names, that of the older activity or that of the newer one. -/
theorem isClick_iff {e : Element} :
    e.kind.isClick = true ↔ e.name = "Click" ∨ e.name = "NClick" := by
  have hkind : ∀ k : Kind, k.isClick = true ↔ k = .click ∨ k = .modernClick := by
    intro k
    cases k <;> simp [Kind.isClick]
  rw [hkind, Element.kind, Kind.ofTag_eq_iff rfl, Kind.ofTag_eq_iff rfl]
  simp [Kind.tags]

/-- The test of the rule says that a click sends something off. A click that has no name is tested
by the empty text, in which there are no telling words. -/
theorem isSlowClick_iff {e : Element} : isSlowClick e = true ↔ SendsOff e := by
  have hnamed : slowClickWords.any (Text.occurs · (Text.lower (e.display ""))) = true ↔
      ∃ name ∈ e.attr? "DisplayName", ∃ word ∈ slowClickWords,
        word.toList <:+: (Text.lower name).toList := by
    rw [Element.display, Element.displayName?]
    cases e.attr? "DisplayName" with
    | none =>
      -- No telling word is in the empty name.
      simp only [Option.getD_none, Option.mem_def, reduceCtorEq, false_and, exists_false, iff_false]
      decide
    | some name => simp [List.any_eq_true, Text.occurs, Text.occursIn_iff]
  rw [isSlowClick, Bool.and_eq_true, isClick_iff, hnamed]
  exact ⟨fun ⟨hclick, hname⟩ => ⟨hclick, hname⟩, fun h => ⟨h.click, h.named⟩⟩

/-! ### The walk of the rule -/

/-- What follows a click too early. -/
def hurried? (root : Element) (click : Place) : Option Place :=
  if isSlowClick click.element then
    (click.next? root).filter fun next => next.element.kind != .delay
  else none

/-- The clicks that nothing waits for, each with what follows it, in document order. -/
def hurriedClicks (d : Document) : List (Place × Place) :=
  d.root.places.filterMap fun click => (hurried? d.root click).map (click, ·)

/-- What follows a click too early is its next sibling, if the click sends something off and the
sibling is no delay. -/
theorem hurried?_eq_some_iff {root : Element} {click next : Place} (hclick : click ∈ root.places) :
    hurried? root click = some next ↔
      Place.Consecutive root click next ∧ SendsOff click.element ∧
        next.element.name ≠ "Delay" := by
  have hdelay : (next.element.kind != .delay) = true ↔ next.element.name ≠ "Delay" := by
    rw [bne_iff_ne, Element.kind, ne_eq, Kind.ofTag_eq_iff rfl]
    simp [Kind.tags]
  rw [hurried?, ← isSlowClick_iff, ← Place.next?_eq_some_iff hclick, ← hdelay]
  -- A click that sends nothing off is never reported.
  by_cases hslow : isSlowClick click.element = true
  · rw [if_pos hslow, Option.filter_eq_some_iff]
    simp only [hslow, true_and]
  · rw [if_neg hslow]
    simp [hslow]

/-- The walk comes through exactly the pairs of consecutive siblings that the rule is about. The
first one of such a pair is a place of the document, as it has a parent there. -/
theorem mem_hurriedClicks_iff {d : Document} {click next : Place} :
    (click, next) ∈ hurriedClicks d ↔
      Place.Consecutive d.root click next ∧ SendsOff click.element ∧
        next.element.name ≠ "Delay" := by
  rw [hurriedClicks, List.mem_filterMap]
  constructor
  · rintro ⟨p, hp, hpair⟩
    obtain ⟨q, hq, heq⟩ := Option.map_eq_some_iff.mp hpair
    obtain ⟨rfl, rfl⟩ := Prod.mk.inj heq
    exact (hurried?_eq_some_iff hp).mp hq
  · intro h
    -- The walk starts from places, so the click has to be one.
    obtain ⟨parent, hparent, -, hchild, -⟩ := h.1.exists_parentAddress?
    have hclick : click ∈ d.root.places := Place.mem_places_of_mem_children hparent hchild
    exact ⟨click, hclick, by rw [(hurried?_eq_some_iff hclick).mpr h, Option.map_some]⟩

/-- Pairing some members of a list with something keeps their order. -/
theorem map_fst_filterMap_sublist {α β : Type} (f : α → Option β) (l : List α) :
    ((l.filterMap fun x => (f x).map (x, ·)).map (·.1)).Sublist l := by
  induction l with
  | nil => exact .slnil
  | cons x rest ih =>
    rw [List.filterMap_cons]
    cases f x with
    | none => exact ih.cons x
    | some y => exact ih.cons_cons x

/-- The clicks come in document order, and each once: a click is reported for the sibling directly
behind it, and there is one at most. -/
theorem map_fst_hurriedClicks_sublist (d : Document) :
    ((hurriedClicks d).map (·.1)).Sublist d.root.places :=
  map_fst_filterMap_sublist (hurried? d.root) d.root.places

/-! ### The reports -/

/-- What is said of a click and of what follows it. The latter goes by the name that people gave
it, or else by its tag. -/
def hurryText (click next : Element) : String :=
  let clickText := click.display ""
  let nextText := next.displayName?.getD next.name
  s!"'{clickText}' is followed by '{nextText}' without waiting for " ++ "the page to respond."

/-- The rule makes one report for each step of the walk. Its test for a parent is passed by every
click that has a next sibling. -/
theorem reports_postClickDelay (d : Document) (t : Thresholds) :
    (postClickDelay (.of d t)).map (fun i => (i.location, i.description))
      = (hurriedClicks d).map fun pair =>
          (pair.1.element.located, hurryText pair.1.element pair.2.element) := by
  rw [postClickDelay, hurriedClicks, List.map_filterMap, List.map_filterMap]
  refine List.filterMap_congr fun click hclick => ?_
  simp only [Subject.of, hurried?, ← Place.map_next?]
  cases hslow : isSlowClick click.element with
  | false => rfl
  | true =>
    cases hnext : click.next? d.root with
    | none => simp
    | some next =>
      -- A click with a next sibling has a parent, so it passes the first test.
      obtain ⟨parent, -, hparent, -⟩ :=
        ((Place.next?_eq_some_iff hclick).mp hnext).exists_parentAddress?
      rw [hparent]
      by_cases hdelay : next.element.kind = .delay
      · simp [hdelay, Option.filter]
      · simp [hdelay, Option.filter, hurryText, Element.display]

/-- `WEB-003` reports the clicks that nothing waits for. Its issues are, one by one and in
document order, those of the pairs of consecutive siblings of which the first is a click that
sends something off and the second is no delay. An issue is located at the click and names
what follows. No click occurs twice. Consecutive siblings have a parent, so that no issue is
suppressed for want of one. -/
theorem postClickDelay_hurriedClicks (d : Document) (t : Thresholds) :
    Labelled "WEB-003" (postClickDelay (.of d t)) ∧
    (postClickDelay (.of d t)).map (fun i => (i.location, i.description))
      = (hurriedClicks d).map (fun pair =>
          (pair.1.element.located, hurryText pair.1.element pair.2.element)) ∧
    ((hurriedClicks d).map (·.1)).Sublist d.root.places ∧ ((hurriedClicks d).map (·.1)).Nodup ∧
    (∀ click next, (click, next) ∈ hurriedClicks d ↔
      Place.Consecutive d.root click next ∧ SendsOff click.element ∧
        next.element.name ≠ "Delay") ∧
    ∀ click next, Place.Consecutive d.root click next → ∃ parent ∈ d.root.places,
      parentAddress? [] click.address = some parent.address ∧
        click ∈ parent.children ∧ next ∈ parent.children := by
  have hsublist := map_fst_hurriedClicks_sublist d
  exact ⟨labelled_postClickDelay _, reports_postClickDelay d t, hsublist,
    hsublist.nodup d.root.nodup_places, fun click next => mem_hurriedClicks_iff,
    fun click next h => h.exists_parentAddress?⟩

/-- A workflow with a click at its root, a click in it, and a click in that one. -/
def nestedClicks : String :=
  "<NClick DisplayName=\"Submit\"><Click DisplayName=\"SUBMIT\">" ++
  "<Click DisplayName=\"Calculate\"/> <!-- --><If/></Click><Delay/></NClick>"

/-- The innermost click is followed by a branch, behind a text and a comment, and is reported.
The one around it is followed by a delay, and the one at the root by nothing. -/
theorem postClickDelay_hurriedClicks_nestedClicks :
    ∃ d, Document.read nestedClicks "Main.xaml" = .ok d ∧
      (postClickDelay (.of d {})).map (fun i => (i.location, i.description))
        = [("Click 'Calculate' (line 1)",
            "'Calculate' is followed by 'If' without waiting for the page to respond.")] ∧
      ∃ click next, click.address = [0, 0] ∧ next.address = [0, 1] ∧
        Place.Consecutive d.root click next ∧ SendsOff click.element ∧
        next.element.name ≠ "Delay" ∧ (parentAddress? [] click.address).isSome = true := by
  obtain ⟨d, hread, hreports, ⟨click, next⟩, hpair, hclick, hnext⟩ :
      ∃ d, Document.read nestedClicks "Main.xaml" = .ok d ∧
        (hurriedClicks d).map (fun pair =>
            (pair.1.element.located, hurryText pair.1.element pair.2.element))
          = [("Click 'Calculate' (line 1)",
              "'Calculate' is followed by 'If' without waiting for the page to respond.")] ∧
        ∃ pair ∈ hurriedClicks d, pair.1.address = [0, 0] ∧ pair.2.address = [0, 1] :=
    exists_ok_of_any (by decide +kernel)
  obtain ⟨-, hissues, -, -, hmem, hparent⟩ := postClickDelay_hurriedClicks d {}
  obtain ⟨hconsecutive, hsendsOff, hdelay⟩ := (hmem click next).mp hpair
  obtain ⟨parent, -, haddress, -⟩ := hparent click next hconsecutive
  exact ⟨d, hread, hissues.trans hreports, click, next, hclick, hnext, hconsecutive, hsendsOff,
    hdelay, by rw [haddress]; rfl⟩

end WorkflowLint.Rule
