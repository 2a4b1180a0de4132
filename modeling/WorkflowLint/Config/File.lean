import WorkflowLint.Config.Encoding
import WorkflowLint.FileSystem

/-!
# `WorkflowLint.Config.File`: configuration files

A configuration is found in the nearest directory, from a given one upwards, that
has an entry of the right name. That entry alone decides: if it cannot be read or
understood, the search does not go on.
-/

set_option autoImplicit false

namespace WorkflowLint

/-- Why a configuration file is of no use. -/
inductive ConfigError where
  | unreadable (path : String) (e : FileError)
  | malformed (path : String) (e : Json.Error)

/-- The complaint in words. -/
def ConfigError.message : ConfigError → String
  | unreadable path e => "Failed to read config file '" ++ path ++ "': " ++ e.message
  | malformed path e => "Failed to parse config file '" ++ path ++ "': " ++ e.message

namespace Config

/-- The name of configuration files. -/
def fileName : String := ".xamlanalyzer.json"

/-- The configuration in a file. -/
def load (fs : FileSystem) (path : String) : Except ConfigError Config :=
  match fs.read path with
  | .error e => .error (.unreadable path e)
  | .ok text =>
    match ofText text with
    | .error e => .error (.malformed path e)
    | .ok c => .ok c

/-- Where a configuration is looked for, from a directory upwards. -/
def candidates (directory : String) : List String :=
  (directory :: Path.above directory).map fun d => Path.join d fileName

/-- The nearest configuration from a directory upwards, if there is one. -/
def discover (fs : FileSystem) (directory : String) : Option (Except ConfigError Config) :=
  ((candidates directory).find? fs.contains).map (load fs)

end Config

end WorkflowLint
