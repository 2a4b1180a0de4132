import WorkflowLint.Path

/-!
# `WorkflowLint.FileSystem`: files and directories

A file system is a tree of directories with files as its leaves, seen from a
working directory. Paths are followed segment by segment, and every segment needs
a directory to be followed in. Two full stops lead up again, and from the root to
the root. Some paths are refused before they are followed: the empty one, those
with the character zero and those that are too long.
-/

set_option autoImplicit false

namespace WorkflowLint

/-- A file or a directory. -/
inductive Entry where
  | file (content : ByteArray)
  | directory (entries : List (String × Entry))

/-- A tree with the entry at an address replaced by what `f` makes of it. What is
missing on the way is a directory. -/
def Entry.alter (f : Option Entry → Entry) : List String → Entry → Entry
  | [], e => f (some e)
  | name :: rest, e =>
    let entries :=
      match e with
      | .directory l => l
      | .file _ => []
    match entries.findIdx? fun x => x.1 == name with
    | some i => .directory (entries.modify i fun x => (x.1, alter f rest x.2))
    | none =>
      .directory (entries ++
        [(name, if rest.isEmpty then f none else alter f rest (.directory []))])

/-- A tree with a file at an address. -/
def Entry.putFile (content : ByteArray) : List String → Entry → Entry :=
  alter fun _ => .file content

/-- A tree with a directory at an address, unless something is there already. -/
def Entry.putDirectory : List String → Entry → Entry := alter fun e? => e?.getD (.directory [])

/-- Why a file cannot be read or written. -/
inductive FileError where
  | notFound
  | notDirectory
  | isDirectory
  | nameTooLong
  | zeroInName
  | notText
deriving DecidableEq, Repr

/-- The complaint in words. -/
def FileError.message : FileError → String
  | notFound => "No such file or directory (os error 2)"
  | notDirectory => "Not a directory (os error 20)"
  | isDirectory => "Is a directory (os error 21)"
  | nameTooLong => "File name too long (os error 36)"
  | zeroInName => "file name contained an unexpected NUL byte"
  | notText => "stream did not contain valid UTF-8"

/-- A tree of files, seen from a working directory that is given by the names on
the way down from the root. -/
structure FileSystem where
  root : Entry
  here : List String

namespace FileSystem

/-! ### Following paths -/

/-- The way from the root to an entry, in reverse: each entry with its name. -/
abbrev Way := List (String × Entry)

/-- The most bytes that a name may have. -/
def longestName : Nat := 255

/-- The most bytes that a path may have, fillers included. -/
def longestPath : Nat := 4095

/-- Why a path is refused before it is followed, if it is. -/
def refusal? (path : String) : Option FileError :=
  if path.toList.contains '\x00' then some .zeroInName
  else if path.isEmpty then some .notFound
  else if longestPath < path.utf8ByteSize then some .nameTooLong
  else none

/-- The entry with a name in a directory. -/
def entry? (entries : List (String × Entry)) (name : String) : Option Entry :=
  (entries.find? fun e => e.1 == name).map (·.2)

/-- Follows one segment. -/
def step (way : Way) (segment : String) : Except FileError Way :=
  match way with
  | (_, .directory entries) :: up =>
    if segment.isEmpty || segment == "." then .ok way
    else if segment == ".." then .ok (if up.isEmpty then way else up)
    else if longestName < segment.utf8ByteSize then .error .nameTooLong
    else
      match entry? entries segment with
      | some e => .ok ((segment, e) :: way)
      | none => .error .notFound
  | (_, .file _) :: _ => .error .notDirectory
  | [] => .error .notFound

/-- Follows segments one after the other. -/
def follow (way : Way) : List String → Except FileError Way
  | [] => .ok way
  | s :: rest => do
    let next ← step way s
    follow next rest

/-- The way to where a path starts, unless the path is refused. -/
def start (fs : FileSystem) (path : String) : Except FileError Way :=
  match refusal? path with
  | some e => .error e
  | none => follow [("", fs.root)] (if Path.isAbsolute path then [] else fs.here)

/-- The way to the entry that a path means. -/
def way (fs : FileSystem) (path : String) : Except FileError Way := do
  let first ← fs.start path
  follow first (Path.segments path)

/-- The entry that a path means. -/
def find (fs : FileSystem) (path : String) : Except FileError Entry := do
  match ← fs.way path with
  | (_, e) :: _ => .ok e
  | [] => .error .notFound

/-! ### Looking -/

/-- Whether a path means anything. -/
def contains (fs : FileSystem) (path : String) : Bool := (fs.find path).toOption.isSome

/-- Whether a path means a file. -/
def isFile (fs : FileSystem) (path : String) : Bool :=
  match fs.find path with
  | .ok (.file _) => true
  | _ => false

/-- Whether a path means a directory. -/
def isDirectory (fs : FileSystem) (path : String) : Bool :=
  match fs.find path with
  | .ok (.directory _) => true
  | _ => false

/-- The text in a file. -/
def read (fs : FileSystem) (path : String) : Except FileError String := do
  match ← fs.find path with
  | .file content =>
    match String.fromUTF8? content with
    | some s => .ok s
    | none => .error .notText
  | .directory _ => .error .isDirectory

mutual

/-- The paths of the files in an entry with a path. -/
def filesOf (path : String) : Entry → List String
  | .file _ => [path]
  | .directory entries => filesOfAll path entries

/-- The paths of the files in the entries of a directory with a path. -/
def filesOfAll (path : String) : List (String × Entry) → List String
  | [] => []
  | (name, e) :: rest => filesOf (Path.join path name) e ++ filesOfAll path rest

end

/-- The paths of the files below a directory, as far as their paths are not
refused. -/
def filesBelow (fs : FileSystem) (path : String) : List String :=
  match fs.find path with
  | .ok (.directory entries) =>
    (filesOfAll path entries).filter fun p => (refusal? p).isNone
  | _ => []

/-! ### Writing -/

/-- The names on the way down to an entry. -/
def addressOf (way : Way) : List String := (way.map (·.1)).reverse.drop 1

/-- Reversed segments without empty ones in front. -/
def trimSlashes (reversed : List String) : List String := reversed.dropWhile (·.isEmpty)

/-- Where a file goes that is written to a path: the names on the way down from
the root. The directory has to be there, and the path may not mean a directory nor
be written like one. -/
def target (fs : FileSystem) (path : String) : Except FileError (List String) := do
  let first ← fs.start path
  let reversed := (Path.segments path).reverse
  let trailing := reversed.head?.any (·.isEmpty)
  match trimSlashes reversed with
  | [] => .error .isDirectory
  | last :: front => do
    let directory ← follow first front.reverse
    if trailing || last == "." || last == ".." then
      -- Such a path means a directory, unless it leads nowhere.
      let _ ← step directory "."
      .error .isDirectory
    else
      match step directory last with
      | .ok ((_, .directory _) :: _) => .error .isDirectory
      | .ok found => .ok (addressOf found)
      | .error .notFound => .ok (addressOf directory ++ [last])
      | .error e => .error e

/-- The working directory as a path. -/
def currentPath (fs : FileSystem) : String := Path.ofSegments true fs.here

end FileSystem

end WorkflowLint
