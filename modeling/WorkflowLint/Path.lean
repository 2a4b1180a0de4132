import WorkflowLint.Text.Search

/-!
# `WorkflowLint.Path`: paths of files

A path is kept as it was given, because reports show it so. Taken apart, it is a
list of segments between slashes, starting at the root or not. Empty segments and
segments that are a single full stop are fillers; only a full stop that a
relative path starts with counts. Two paths are the same when they have the same
components, and paths are ordered by their components.
-/

set_option autoImplicit false

namespace WorkflowLint.Path

/-! ### Components -/

/-- A part of a path that counts. -/
inductive Component where
  | root
  | here
  | up
  | name (s : String)
deriving DecidableEq, Repr

/-- The rank of a component; of names the text decides. -/
def Component.rank : Component → Nat
  | root => 0
  | here => 1
  | up => 2
  | name _ => 3

/-- The text of a name. -/
def Component.text : Component → String
  | name s => s
  | _ => ""

/-- Whether a component comes in front of another one. -/
def Component.lt (a b : Component) : Bool :=
  a.rank < b.rank || (a.rank == b.rank && a.text < b.text)

/-- Whether a path starts at the root. -/
def isAbsolute (path : String) : Bool := path.toList.head? == some '/'

/-- The segments of a path, without the slash that stands for the root. -/
def segments (path : String) : List String :=
  if isAbsolute path then Text.pieces '/' (String.ofList (path.toList.drop 1))
  else Text.pieces '/' path

/-- Whether a segment counts for nothing. A full stop counts where a relative path
starts with it. -/
def isFiller (absolute first : Bool) (segment : String) : Bool :=
  segment.isEmpty || (segment == "." && (absolute || !first))

/-- The component that a segment is. -/
def componentOf (segment : String) : Component :=
  if segment == "." then .here else if segment == ".." then .up else .name segment

/-- The components of segments, of which the first one is the first of the path or
not. -/
def componentsOf (absolute : Bool) (first : Bool) : List String → List Component
  | [] => []
  | s :: rest =>
    let others := componentsOf absolute false rest
    if isFiller absolute first s then others else componentOf s :: others

/-- The components of a path. -/
def components (path : String) : List Component :=
  let absolute := isAbsolute path
  (if absolute then [.root] else []) ++ componentsOf absolute true (segments path)

/-- Whether two paths are the same. -/
def same (p q : String) : Bool := components p == components q

/-- Whether components come in front of others or are the same. -/
def leComponents : List Component → List Component → Bool
  | [], _ => true
  | _ :: _, [] => false
  | a :: as, b :: bs => if a == b then leComponents as bs else a.lt b

/-- Whether a path comes in front of another one or is the same. -/
def le (p q : String) : Bool := leComponents (components p) (components q)

/-! ### Going up and down -/

/-- The text of a path with some segments. -/
def ofSegments (absolute : Bool) (segments : List String) : String :=
  (if absolute then "/" else "") ++ "/".intercalate segments

/-- Reversed segments without the fillers at the end of the path. -/
def trimEnd (absolute : Bool) : List String → List String
  | [] => []
  | s :: rest => if isFiller absolute rest.isEmpty s then trimEnd absolute rest else s :: rest

/-- The paths above one with some reversed segments, the nearest first. -/
def aboveOf (absolute : Bool) : List String → List String
  | [] => []
  | s :: rest =>
    if isFiller absolute rest.isEmpty s then aboveOf absolute rest
    else ofSegments absolute (trimEnd absolute rest).reverse :: aboveOf absolute rest

/-- The paths above a path, the nearest first. Each lacks the last component of
the one before it. -/
def above (path : String) : List String :=
  aboveOf (isAbsolute path) (segments path).reverse

/-- The path directly above, if there is one. -/
def parent? (path : String) : Option String := (above path).head?

/-- The path of something in a directory. -/
def join (directory name : String) : String :=
  if directory.isEmpty then name
  else if directory.toList.getLast? = some '/' then directory ++ name
  else directory ++ "/" ++ name

/-! ### Names -/

/-- The name of the file that a path means. -/
def fileName? (path : String) : Option String :=
  match (components path).getLast? with
  | some (.name s) => some s
  | _ => none

/-- What follows the last full stop of the file's name, unless that stands in
front of everything. -/
def extension? (path : String) : Option String := do
  let name ← fileName? path
  match (Text.pieces '.' name).reverse with
  | last :: front :: others => if others.isEmpty && front.isEmpty then none else some last
  | _ => none

end WorkflowLint.Path
