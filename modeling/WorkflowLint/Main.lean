import Std.Time
import WorkflowLint.CommandLine.Run

/-!
# `WorkflowLint.Main`: the program

A run is a function of its surroundings, so the program takes a picture of the
part of the disk that a command line can touch, runs on the picture, and does what
the outcome says. Of the files below a directory only workflows and project files
are looked into.
-/

set_option autoImplicit false

namespace WorkflowLint.Main

open CommandLine

/-- The paths that a run may look at besides the files below directories. -/
def touched (s : Settings) (directory : String) : List String :=
  s.paths ++ s.metadata?.toList ++ s.output?.toList ++
  (match s.config? with
    | some path => [path]
    | none => Config.candidates directory) ++
  s.paths.filterMap fun p => (Path.parent? p).map fun d => Path.join d Project.fileName

/-- Whether a file below a directory may be looked into. -/
def isWanted (path : String) : Bool :=
  isWorkflow path || Path.fileName? path == some Project.fileName

/-- The bytes of a file, or none if it cannot be read. -/
def bytesAt (path : String) : IO ByteArray := do
  try IO.FS.readBinFile path catch _ => return .empty

/-- What is at a path of the disk. -/
inductive Found where
  | nothing
  | file
  | directory (names : List String)

/-- Looks at a path of the disk. -/
def look (path : String) : IO Found := do
  try
    let found ← IO.FS.realPath path
    if ← found.isDir then return .directory ((← found.readDir).toList.map (·.fileName))
    else if ← found.pathExists then return .file
    else return .nothing
  catch _ => return .nothing

/-- The entry at a path of the disk, with all that is below it. -/
partial def entryAt (path : String) : IO (Option Entry) := do
  match ← look path with
  | .nothing => return none
  | .file => return some (.file (← if isWanted path then bytesAt path else pure .empty))
  | .directory names =>
    let entries ← names.filterMapM fun name => do
      return (← entryAt (Path.join path name)).map fun e => (name, e)
    return some (.directory entries)

/-- The names that one more segment leads to. -/
def followed (address : List String) (segment : String) : List String :=
  if segment.isEmpty || segment == "." then address
  else if segment == ".." then address.dropLast
  else address ++ [segment]

/-- A picture with the directories and the file along some segments, the names of
`address` having been followed. -/
def along (root : Entry) (address : List String) : List String → IO Entry
  | [] => return root
  | s :: rest => do
    let next := followed address s
    let path := Path.ofSegments true next
    match ← look path with
    | .nothing => return root
    | .file => return root.putFile (← bytesAt path) next
    | .directory _ => along (root.putDirectory next) next rest

/-- The segments of a path on the way down from the root. -/
def fullSegments (here : List String) (path : String) : List String :=
  if Path.isAbsolute path then Path.segments path else here ++ Path.segments path

/-- The names that segments lead to. -/
def settled (segments : List String) : List String :=
  segments.foldl followed []

/-- A picture of what a run may look at. -/
def picture (s : Settings) (directory : String) : IO FileSystem := do
  let here := (Path.segments directory).filter fun n => !n.isEmpty
  let mut root : Entry := .directory []
  for path in s.paths do
    match ← entryAt path with
    | some (.directory entries) =>
      root := root.alter (fun _ => .directory entries) (settled (fullSegments here path))
    | _ => pure ()
  for path in touched s directory do
    root ← along root [] (fullSegments here path)
  return ⟨← along root [] here, here⟩

/-- Now. -/
def now : IO Report.Stamp := do
  let n := (← Std.Time.Timestamp.now).toNanosecondsSinceUnixEpoch.val.toNat
  return ⟨n / 1000000000, n % 1000000000⟩

/-- A line as it is printed. -/
def printed (l : Line) : String :=
  match l.level? with
  | some level => "[" ++ level.label ++ "] " ++ l.text
  | none => l.text

/-- Does what an outcome says. -/
def perform (o : Outcome) : IO UInt32 := do
  for l in linesOf o.notices do
    IO.eprintln (printed l)
  IO.print o.output
  match o.written? with
  | some w => IO.FS.writeFile w.path w.content
  | none => pure ()
  return o.exit.toUInt32

end WorkflowLint.Main

/-- Runs the program. -/
def main (arguments : List String) : IO UInt32 := do
  let directory := (← IO.currentDir).toString
  let files ←
    match WorkflowLint.CommandLine.Settings.ofArguments arguments with
    | .ok s => WorkflowLint.Main.picture s directory
    | .error _ => pure ⟨.directory [], []⟩
  let terminal ← (← IO.getStdout).isTty
  WorkflowLint.Main.perform
    (WorkflowLint.CommandLine.run ⟨files, ← WorkflowLint.Main.now, terminal⟩ arguments)
