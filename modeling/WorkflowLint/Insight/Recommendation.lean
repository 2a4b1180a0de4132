import WorkflowLint.Config
import WorkflowLint.Facts

/-!
# `WorkflowLint.Insight.Recommendation`: what could be better

Recommendations follow from the activities alone: whether errors are handled,
whether enough is logged, and whether activities that wait for a screen say how
long.
-/

set_option autoImplicit false

namespace WorkflowLint.Insight

/-- How many activities of a kind there are. -/
def count (activities : List Activity) (k : Kind) : Nat :=
  (activities.filter fun a => a.kind == k).length

/-- Advice on error handling. -/
def handlingAdvice : String :=
  "Add global error handling: wrap the main steps in a Try Catch so crashes and missing " ++
  "selectors do not stop the process. Log the error in the Catch and end the run in a " ++
  "controlled way or start an alternative path."

/-- Advice where nothing is logged. -/
def loggingAdvice : String :=
  "Add logging for process tracking: log the start and end of the workflow at Info level " ++
  "and log after important steps such as processing a file or calling an API."

/-- Advice where little is logged. -/
def detailAdvice : String :=
  "Log in more detail: log exception details (Exception.Message, Exception.Source) at " ++
  "Error level inside Catch blocks, and log key parameters and decision points."

/-- Advice where every timeout is set. -/
def timeoutReviewAdvice : String :=
  "Review timeout settings: every UI activity has a timeout, but check that the values " ++
  "match the application's real response times. Too short causes instability, too " ++
  "long slows the process down."

/-- Advice where timeouts are missing; `names` lists the activities. -/
def timeoutAdvice (names : String) : String :=
  "Set explicit timeouts: UI activities such as " ++ names ++ " have no timeout. Give them a " ++
  "reasonable TimeoutMS (for example 10000 for 10 seconds) so the robot neither " ++
  "waits too long nor fails too early."

/-- What is said where there is nothing to advise. -/
def noAdvice : String := "No general recommendations. The workflow looks good!"

/-- Whether an activity says how long it waits. -/
def hasTimeout (a : Activity) : Bool :=
  (a.attributes.get? "TimeoutMS").isSome || (a.attributes.get? "Timeout").isSome

/-- Advice on timeouts. -/
def timeouts (activities : List Activity) : List String :=
  let waiting := activities.filter fun a => a.kind.isInteraction
  let missing := waiting.filter fun a => !hasTimeout a
  if waiting.isEmpty then []
  else if missing.isEmpty then [timeoutReviewAdvice]
  else [timeoutAdvice (", ".intercalate (missing.map fun a => "'" ++ a.name ++ "'"))]

/-- All advice that applies, in a fixed order. -/
def advice (activities : List Activity) (t : Thresholds) : List String :=
  (if count activities .tryCatch = 0 ∧ activities.length > t.maxActivitiesWithoutTryCatch then
    [handlingAdvice] else []) ++
  (let logs := count activities .logMessage
   if logs = 0 then [loggingAdvice]
   else if logs < t.minLogMessages then [detailAdvice]
   else []) ++
  timeouts activities

/-- What could be better about a workflow. -/
def recommendations (activities : List Activity) (t : Thresholds) : List String :=
  let given := advice activities t
  if given.isEmpty then [noAdvice] else given

end WorkflowLint.Insight
