import WorkflowLint.Rule.Basic

/-!
# `WorkflowLint.Rule.Handler`: rules about error handlers and branches

An error handler has a part to protect and blocks that catch errors; a branch
has a part for either outcome of its condition. The parts are property elements;
of several with the same name the first one counts. A part in which nothing
happens was probably forgotten.
-/

set_option autoImplicit false

namespace WorkflowLint.Rule

/-- What an error handler without a display name is called. -/
def handlerName : String := "Try Catch"

/-- Log levels that hide an error. -/
def quietLevels : List String := ["Info", "Trace"]

/-- Whether a log message hides an error; a message without a level does. -/
def isQuiet (log : Xml.Element) : Bool :=
  match log.attr? "Level" with
  | none => true
  | some level => quietLevels.any (Text.occurs · level)

/-- The blocks of an error handler that may be called catch blocks: the children
of its first `TryCatch.Catches`. -/
def catchChildren (handler : Xml.Element) : List Xml.Element :=
  ((handler.child? "TryCatch.Catches").map (·.children)).getD []

/-- An error logged at a level that hides it. -/
def catchLogLevel (s : Subject) : List Issue :=
  (s.document.ofKind .tryCatch).flatMap fun handler =>
    let handlerText := handler.display handlerName
    ((catchChildren handler).filter fun c => Text.endsWith "Catch" c.name).flatMap fun block =>
      ((block.belowNamed Kind.logMessage.tags).filter isQuiet).map fun log =>
        let logText := log.display "Log Message"
        let place := log.located
        { rule := "LOG-002"
          severity := .medium
          category := .logging
          title := "Miscategorized error log"
          description := s!"A Catch block of '{handlerText}' logs the error with '{logText}' at " ++
            "Info or Trace level, so real failures are easy to miss."
          location := s!"TryCatch '{handlerText}' > Catch ({place})"
          solution := s!"Set the Level of '{logText}' to Warn or Error." }

/-- An error handler that protects nothing. -/
def emptyTry (s : Subject) : List Issue :=
  ((s.document.ofKind .tryCatch).filter fun handler =>
    (handler.child? "TryCatch.Try").all fun part => part.children.isEmpty).map fun handler =>
      let text := handler.display handlerName
      { rule := "LOGIC-001"
        severity := .medium
        category := .logicError
        title := "Empty Try block"
        description := s!"The Try section of '{text}' is empty, so nothing is protected."
        location := handler.located
        solution := "Move the activities to protect into the Try section, or remove the Try " ++
          "Catch." }

/-- Whether a catch block does nothing. -/
def isEmptyCatch (block : Xml.Element) : Bool :=
  (block.child? "ActivityAction").all (·.isHollow)

/-- A catch block that swallows the error. -/
def emptyCatch (s : Subject) : List Issue :=
  (s.document.ofKind .tryCatch).flatMap fun handler =>
    let text := handler.display handlerName
    ((catchChildren handler).filter isEmptyCatch).map fun block =>
      { rule := "LOGIC-002"
        severity := .high
        category := .logicError
        title := "Empty Catch block"
        description := s!"A Catch block of '{text}' is empty. Silently swallowed errors make " ++
          "failures impossible to trace."
        location := block.located
        solution := "Handle the error, or at least log it with a Log Message at Error level." }

/-- A branch with nothing to do when its condition holds. -/
def emptyThen (s : Subject) : List Issue :=
  ((s.document.ofKind .branch).filter fun branch =>
    (branch.child? "If.Then").all (·.isHollow)).map fun branch =>
      let text := branch.display "If"
      { rule := "LOGIC-003"
        severity := .low
        category := .logicError
        title := "Empty Then block"
        description := s!"The Then branch of '{text}' is empty, which suggests unfinished logic."
        location := branch.located
        solution := "Add the activities for the true branch, or rethink the condition." }

/-- A branch with a part for the failing condition, which is empty. -/
def emptyElse (s : Subject) : List Issue :=
  ((s.document.ofKind .branch).filter fun branch =>
    (branch.child? "If.Else").any fun part => part.children.isEmpty).map fun branch =>
      let text := branch.display "If"
      { rule := "LOGIC-004"
        severity := .low
        category := .logicError
        title := "Empty Else block"
        description := s!"The Else branch of '{text}' is empty."
        location := branch.located
        solution := "Remove the Else branch if no logic is needed there." }

end WorkflowLint.Rule
