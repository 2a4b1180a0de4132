import WorkflowLint.CommandLine.Usage

/-!
# `WorkflowLint.CommandLine.Notice`: what a run says besides its report

Complaints stand on lines of their own, as they are. Messages of the log lose
their control sequences, and the lines of a message behind the first one are
indented. A message can lose its last line end in this way; then what is said
next goes on in the same line.
-/

set_option autoImplicit false

namespace WorkflowLint.CommandLine

/-- How important a message is. -/
inductive Level where
  | warning
  | info
deriving DecidableEq, Repr

/-- The name of a level in the log. -/
def Level.label : Level → String
  | warning => "WARN"
  | info => "INFO"

/-- A message of the log. -/
structure Message where
  level : Level
  text : String
deriving DecidableEq, Repr

/-- Something that a run says besides its report. -/
inductive Notice where
  | complaint (text : String)
  | misuse (e : UsageError)
  | message (m : Message)
deriving DecidableEq, Repr

namespace Notice

/-- A warning of the log. -/
def warning (text : String) : Notice := .message ⟨.warning, text⟩

/-- A message of the log that only a verbose run shows. -/
def info (text : String) : Notice := .message ⟨.info, text⟩

/-- Whether something is said in a run that is verbose or not. -/
def isSaid (verbose : Bool) : Notice → Bool
  | .message m => verbose || m.level == .warning
  | _ => true

end Notice

/-! ### Lines -/

/-- Characters with every line behind the first one indented. -/
def indented : List Char → List Char
  | [] => []
  | '\n' :: rest => '\n' :: ' ' :: ' ' :: ' ' :: ' ' :: indented rest
  | c :: rest => c :: indented rest

/-- A character that is said, or the place where a message of the log starts. -/
inductive Mark where
  | start (level : Level)
  | char (c : Char)
deriving DecidableEq, Repr

/-- What is said, with the line end. -/
def Notice.marks : Notice → List Mark
  | complaint text => text.toList.map .char ++ [.char '\n']
  | misuse e => e.message.toList.map .char
  | message m =>
    .start m.level ::
      (Text.Terminal.keep {} (indented m.text.toList ++ ['\n'])).map .char

/-- A line that is said; a line of the log starts with a level. -/
structure Line where
  level? : Option Level
  text : String
deriving DecidableEq, Repr

/-- The characters of a mark in a line. -/
def Mark.chars : Mark → List Char
  | .start level => '[' :: level.label.toList ++ [']', ' ']
  | .char c => [c]

/-- The line that marks make up. -/
def Line.ofMarks : List Mark → Line
  | .start level :: rest => ⟨some level, String.ofList (rest.flatMap Mark.chars)⟩
  | marks => ⟨none, String.ofList (marks.flatMap Mark.chars)⟩

/-- Reversed marks without the carriage return at the end of the line. -/
def dropReturn : List Mark → List Mark
  | .char '\r' :: rest => rest
  | marks => marks

/-- Cuts marks into lines; `line` are the marks of the first line so far, in
reverse. A line end ends a line, and what follows the last one is a line unless it
is empty. -/
def cut (line : List Mark) : List Mark → List Line
  | [] => if line.isEmpty then [] else [.ofMarks line.reverse]
  | .char '\n' :: rest => .ofMarks (dropReturn line).reverse :: cut [] rest
  | m :: rest => cut (m :: line) rest

/-- What notices look like line by line. -/
def linesOf (notices : List Notice) : List Line := cut [] (notices.flatMap Notice.marks)

end WorkflowLint.CommandLine
