import WorkflowLint.Rule.Basic
import WorkflowLint.Text.Case

/-!
# `WorkflowLint.Rule.Screen`: rules about working on a screen

Rules about application scopes, typing, clicking and the selectors that find
things on a screen.

A click that sends a form off should be followed by a delay. The click is found
at its place in the tree, so that the element that follows it, and the parent
that both have, are the ones of this very click.
-/

set_option autoImplicit false

namespace WorkflowLint.Rule

/-- An application scope inside another one. -/
def nestedScopes (s : Subject) : List Issue :=
  ((s.document.ofKind .applicationCard).filter fun scope =>
    !(scope.belowNamed Kind.applicationCard.tags).isEmpty).map fun scope =>
      let scopeText := scope.display "Use Application/Browser"
      { rule := "WEB-001"
        severity := .medium
        category := .browserOperations
        title := "Nested browser scope"
        description := s!"'{scopeText}' contains another application card."
        location := scope.located
        solution := "Remove the inner scope. A single application card is enough." }

/-- Typing into a field that is not cleared first. -/
def emptyFieldMode (s : Subject) : List Issue :=
  ((s.document.ofKind .modernTypeInto).filter fun e =>
    e.attr? "EmptyFieldMode" != some "SingleLine").map fun e =>
      let text := e.display "Type Into"
      { rule := "WEB-002"
        severity := .low
        category := .browserOperations
        title := "Missing field-clear mode"
        description := s!"'{text}' does not clear the field before typing."
        location := e.located
        solution := "Set EmptyFieldMode to 'SingleLine' so the field is cleared first." }

/-- Words in the name of a click that sends something off. -/
def slowClickWords : List String := ["calculate", "submit"]

/-- Whether an element is a click that sends something off. -/
def isSlowClick (e : Xml.Element) : Bool :=
  e.kind.isClick && slowClickWords.any (Text.occurs · (Text.lower (e.display "")))

/-- A click that sends something off and is followed directly by something other
than a delay. The last child of its parent is followed by nothing. -/
def postClickDelay (s : Subject) : List Issue :=
  let root := s.document.root
  root.places.filterMap fun click =>
    if !isSlowClick click.element then none
    else if (Xml.parentAddress? [] click.address).isNone then none
    else
      match (Xml.nextAddress? click.address).bind root.at? with
      | none => none
      | some next =>
        if next.kind == .delay then none
        else
          let clickText := click.element.display ""
          let nextText := next.display next.name
          some
            { rule := "WEB-003"
              severity := .medium
              category := .browserOperations
              title := "Missing post-click delay"
              description := s!"'{clickText}' is followed by '{nextText}' without waiting for " ++
                "the page to respond."
              location := click.element.located
              solution := "Add a 2-3 second Delay (or a wait-for-element) after the click." }

/-- The query of an address: what stands between its first and its second
question mark. -/
def query? (url : String) : Option String := (Text.pieces '?' url)[1]?

/-- A selector's address with too long a query. -/
def urlQueryLength (s : Subject) : List Issue :=
  (s.document.ofKind .targetAnchorable).filterMap fun target =>
    match (target.attr? "BrowserURL").bind query? with
    | none => none
    | some query =>
      let length := query.length
      if length > s.thresholds.maxUrlQueryLength then
        some
          { rule := "SEL-001"
            severity := .medium
            category := .selectors
            title := "Long URL query in selector"
            description := s!"The target URL carries a {length}-character query string. Dynamic " ++
              "parameters break the selector between runs."
            location := target.located
            solution :=
              "Match on the base URL only, or replace the parameters with a wildcard." }
      else none

/-- A strict selector without a fuzzy one beside it. -/
def fuzzySelector (s : Subject) : List Issue :=
  ((s.document.ofKind .targetAnchorable).filter fun target =>
    !((target.attr? "FullSelectorArgument").getD "").isEmpty &&
      ((target.attr? "FuzzySelectorArgument").getD "").isEmpty).map fun target =>
      { rule := "SEL-002"
        severity := .low
        category := .selectors
        title := "Full selector without fuzzy"
        description := "Only a strict selector is defined for this target."
        location := target.located
        solution := "Add a fuzzy selector so the target survives small UI changes." }

end WorkflowLint.Rule
