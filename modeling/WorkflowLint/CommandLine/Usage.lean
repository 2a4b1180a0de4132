import WorkflowLint.Report.Basic
import WorkflowLint.Text.Terminal

/-!
# `WorkflowLint.CommandLine.Usage`: what can stand on a command line

Options take a value and switches do not; everything else is a path. An option or
a switch has a long name, and some have a letter too.

A complaint about a command line quotes what was given without its control
sequences. Each quoted part is treated on its own, so no sequence reaches beyond
it.
-/

set_option autoImplicit false

namespace WorkflowLint.CommandLine

/-- What takes a value. -/
inductive Choice where
  | metadata
  | output
  | format
  | config
  | minScore
deriving DecidableEq, Repr

namespace Choice

/-- All options. -/
def all : List Choice := [metadata, output, format, config, minScore]

/-- The long name of an option. -/
def long : Choice → String
  | metadata => "metadata"
  | output => "output"
  | format => "format"
  | config => "config"
  | minScore => "min-score"

/-- The letter of an option. -/
def letter? : Choice → Option Char
  | metadata => some 'm'
  | output => some 'o'
  | format => some 'f'
  | config => some 'c'
  | minScore => none

/-- An option in complaints. -/
def shown : Choice → String
  | metadata => "--metadata <METADATA>"
  | output => "--output <OUTPUT>"
  | format => "--format <FORMAT>"
  | config => "--config <CONFIG>"
  | minScore => "--min-score <MIN_SCORE>"

end Choice

/-- What takes no value. -/
inductive Switch where
  | noColor
  | verbose
  | help
  | version
deriving DecidableEq, Repr

namespace Switch

/-- All switches. -/
def all : List Switch := [noColor, verbose, help, version]

/-- The long name of a switch. -/
def long : Switch → String
  | noColor => "no-color"
  | verbose => "verbose"
  | help => "help"
  | version => "version"

/-- The letter of a switch. -/
def letter? : Switch → Option Char
  | noColor => none
  | verbose => some 'v'
  | help => some 'h'
  | version => some 'V'

/-- A switch in complaints. -/
def shown (s : Switch) : String := "--" ++ s.long

end Switch

/-- Something with a name. -/
inductive Named where
  | choice (c : Choice)
  | switch (s : Switch)
deriving DecidableEq, Repr

/-- Everything with a name. -/
def Named.all : List Named := Choice.all.map .choice ++ Switch.all.map .switch

/-- What has a long name. -/
def Named.ofLong? (name : String) : Option Named :=
  all.find? fun
    | .choice c => c.long == name
    | .switch s => s.long == name

/-- What has a letter. -/
def Named.ofLetter? (letter : Char) : Option Named :=
  all.find? fun
    | .choice c => c.letter? == some letter
    | .switch s => s.letter? == some letter

/-- Paths in complaints. -/
def pathsShown : String := "<PATHS>..."

/-- Why a command line is not understood. -/
inductive UsageError where
  | unknown (argument : String)
  | noValue (shown : String)
  | badValue (value shown reason : String)
  | repeated (shown : String)
  | surplusValue (value shown : String)
  | noPaths
deriving DecidableEq, Repr

/-- What every complaint ends with, up to the name of the switch that helps. -/
def hint : String := "\n\nFor more information, try '"

/-- A complaint in parts: every other part is quoted. -/
def UsageError.parts : UsageError → List String
  | unknown argument => ["unexpected argument '", argument, "' found" ++ hint]
  | noValue shown => ["a value is required for '", shown, "' but none was supplied" ++ hint]
  | badValue value shown reason =>
    ["invalid value '", value, "' for '", shown, "': " ++ reason ++ hint]
  | repeated shown => ["the argument '", shown, "' cannot be used multiple times" ++ hint]
  | surplusValue value shown =>
    ["unexpected value '", value, "' for '", shown, "' found; no more were expected" ++ hint]
  | noPaths => ["the following required arguments were not provided:\n  ", pathsShown, hint]

/-- The complaint in words. -/
def UsageError.message (e : UsageError) : String :=
  String.join
    (["error: "] ++ e.parts.map Text.Terminal.plain ++ [Switch.help.shown, "'.\n"])

/-- What the tool says about itself when asked how to use it. -/
def helpText : String :=
  "UiPath workflow analyzer - error handling, logging, selector and structure checks\n\n" ++
  "Usage: " ++ Report.toolName ++ " [OPTIONS] <PATHS>...\n\n" ++
  "Arguments:\n  <PATHS>...  Workflow files or directories to analyze\n\n" ++
  "Options:\n" ++
  "  -m, --metadata <METADATA>    Project metadata file (defaults to project.json next to each workflow)\n" ++
  "  -o, --output <OUTPUT>        Write the report to a file instead of stdout\n" ++
  "  -f, --format <FORMAT>        Output format (text, json, markdown, html) [default: text]\n" ++
  "  -c, --config <CONFIG>        Configuration file\n" ++
  "      --min-score <MIN_SCORE>  Fail with exit code 2 when any workflow scores below this\n" ++
  "      --no-color               Disable colored output\n" ++
  "  -v, --verbose                Verbose output\n" ++
  "  -h, --help                   Print help\n" ++
  "  -V, --version                Print version\n"

/-- What the tool says when asked for its version. -/
def versionText : String := Report.toolName ++ " " ++ Report.toolVersion ++ "\n"

end WorkflowLint.CommandLine
