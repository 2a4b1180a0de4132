import WorkflowLint.CommandLine.Usage
import WorkflowLint.Decimal.Literal

/-!
# `WorkflowLint.CommandLine.Settings`: what a command line asks for

Arguments are read one after the other. An option's value and a run of paths are
held back as pending; they are checked when something else with a name comes, when
paths begin, or at the end. What is not known at all is refused at once, whatever
is pending.
-/

set_option autoImplicit false

namespace WorkflowLint.CommandLine

/-- What a command line asks for. -/
structure Settings where
  paths : List String := []
  metadata? : Option String := none
  output? : Option String := none
  format? : Option Report.Format := none
  config? : Option String := none
  minScore? : Option Float := none
  noColor : Bool := false
  verbose : Bool := false

/-- The format of the report. -/
def Settings.format (s : Settings) : Report.Format := s.format?.getD .text

/-- Why there is nothing to run. -/
inductive Stop where
  | usage (e : UsageError)
  | help
  | version
deriving DecidableEq, Repr

/-- What has been read but not checked. -/
inductive Pending where
  | nothing
  | value (c : Choice) (given? : Option String)
  | paths (given : List String)
deriving DecidableEq, Repr

/-- What has been read. -/
structure State where
  settings : Settings := {}
  pending : Pending := .nothing
  /-- Whether only paths can follow. -/
  pathsOnly : Bool := false

/-! ### Checking -/

/-- A path, which may not be empty. -/
def checkPath (shown path : String) : Except UsageError String :=
  if path.isEmpty then .error (.noValue shown) else .ok path

/-- A value that may be given once. -/
def once {α : Type} (shown : String) (before? : Option α) (value : Except UsageError α) :
    Except UsageError (Option α) :=
  if before?.isSome then .error (.repeated shown) else value.map some

/-- The format with a name. -/
def checkFormat (value : String) : Except UsageError Report.Format :=
  match Report.Format.ofName? value with
  | some f => .ok f
  | none => .error (.badValue value Choice.format.shown (Report.Format.complaint value))

/-- The score that a value says. -/
def checkScore (value : String) : Except UsageError Float :=
  match Decimal.parse value with
  | .ok x => .ok x
  | .error e => .error (.badValue value Choice.minScore.shown e.message)

/-- Settings with the value of an option. -/
def Settings.choose (s : Settings) (c : Choice) (value : String) : Except UsageError Settings :=
  match c with
  | .metadata => do
    return { s with metadata? := ← once c.shown s.metadata? (checkPath c.shown value) }
  | .output => do
    return { s with output? := ← once c.shown s.output? (checkPath c.shown value) }
  | .format => do return { s with format? := ← once c.shown s.format? (checkFormat value) }
  | .config => do
    return { s with config? := ← once c.shown s.config? (checkPath c.shown value) }
  | .minScore => do
    return { s with minScore? := ← once c.shown s.minScore? (checkScore value) }

/-- Settings with more paths. -/
def Settings.addPaths (s : Settings) (given : List String) : Except UsageError Settings := do
  let checked ← given.mapM (checkPath pathsShown)
  return { s with paths := s.paths ++ checked }

/-- Checks what is pending. -/
def State.settle (s : State) : Except UsageError State :=
  match s.pending with
  | .nothing => .ok s
  | .value c none => .error (.noValue c.shown)
  | .value c (some v) => do
    return { s with settings := ← s.settings.choose c v, pending := .nothing }
  | .paths given => do
    return { s with settings := ← s.settings.addPaths given, pending := .nothing }

/-! ### Reading -/

/-- A result, or the end of reading because of a complaint. -/
def orStop {α : Type} : Except UsageError α → Except Stop α
  | .ok a => .ok a
  | .error e => .error (.usage e)

/-- Reads a path. -/
def State.path (s : State) (argument : String) : Except Stop State :=
  match s.pending with
  | .paths given => .ok { s with pending := .paths (given ++ [argument]) }
  | _ => do
    let settled ← orStop s.settle
    return { settled with pending := .paths [argument] }

/-- Reads a switch. -/
def State.switch (s : State) (switch : Switch) : Except Stop State := do
  let settled ← orStop s.settle
  match switch with
  | .help => .error .help
  | .version => .error .version
  | .noColor =>
    if settled.settings.noColor then .error (.usage (.repeated switch.shown))
    else return { settled with settings := { settled.settings with noColor := true } }
  | .verbose =>
    if settled.settings.verbose then .error (.usage (.repeated switch.shown))
    else return { settled with settings := { settled.settings with verbose := true } }

/-- Reads an option, with a value that is attached to it or still to come. -/
def State.choice (s : State) (c : Choice) (attached? : Option String) : Except Stop State := do
  let settled ← orStop s.settle
  match attached? with
  | some v => orStop { settled with pending := .value c (some v) }.settle
  | none => return { settled with pending := .value c none }

/-- Reads an argument that starts with two hyphens, without them. -/
def State.long (s : State) (argument : List Char) : Except Stop State :=
  let name := String.ofList (argument.takeWhile (· != '='))
  let value? := ((argument.dropWhile (· != '=')).tail?).map String.ofList
  match Named.ofLong? name, value? with
  | some (.choice c), _ => s.choice c value?
  | some (.switch switch), some v => .error (.usage (.surplusValue v switch.shown))
  | some (.switch switch), none => s.switch switch
  | none, _ => .error (.usage (.unknown ("--" ++ name)))

/-- The value that is attached to a letter. -/
def attached? : List Char → Option String
  | [] => none
  | '=' :: value => some (String.ofList value)
  | value => some (String.ofList value)

/-- Reads letters that stand behind one hyphen. -/
def State.letters (s : State) : List Char → Except Stop State
  | [] => .ok s
  | letter :: rest =>
    match Named.ofLetter? letter with
    | some (.switch switch) => do
      let next ← s.switch switch
      next.letters rest
    | some (.choice c) => s.choice c (attached? rest)
    | none => .error (.usage (.unknown (String.ofList ['-', letter])))

/-- Reads an argument. -/
def State.argument (s : State) (argument : String) : Except Stop State :=
  if s.pathsOnly then s.path argument
  else
    match argument.toList with
    | ['-', '-'] => .ok { s with pathsOnly := true }
    | '-' :: '-' :: rest => s.long rest
    | '-' :: letter :: rest => s.letters (letter :: rest)
    | _ =>
      match s.pending with
      | .value c none => .ok { s with pending := .value c (some argument) }
      | _ => s.path argument

/-- What a command line asks for. -/
def Settings.ofArguments (arguments : List String) : Except Stop Settings := do
  let read ← arguments.foldlM State.argument {}
  let settled ← orStop read.settle
  if settled.settings.paths.isEmpty then .error (.usage .noPaths) else return settled.settings

end WorkflowLint.CommandLine
