/-!
# `WorkflowLint.Glob`: patterns for paths

A pattern is matched against the text of a whole path:

* `?` stands for one character and `*` for any run of characters, slashes
  included;
* `[...]` stands for one of the listed characters, `[!...]` for one that is not
  listed; `a-z` lists a range, and a closing bracket is listed by putting it
  first;
* `**` has to be a whole component of the path. It stands for any number of
  whole components with their slashes; at the end of a pattern it stands for
  anything.

A pattern with three stars in a row, with `**` inside a component or with an
unclosed bracket is no pattern, and matches nothing.
-/

set_option autoImplicit false

namespace WorkflowLint.Glob

/-- A range of characters; a single character is a range of one. -/
structure Range where
  low : Char
  high : Char
deriving DecidableEq, Repr

/-- A part of a pattern. -/
inductive Part where
  | char (c : Char)
  | anyChar
  | anyRun
  | anyComponents
  | oneOf (ranges : List Range)
  | noneOf (ranges : List Range)
deriving DecidableEq, Repr

/-- The ranges that the inside of a bracket lists. -/
def ranges : List Char → List Range
  | low :: '-' :: high :: rest => ⟨low, high⟩ :: ranges rest
  | c :: rest => ⟨c, c⟩ :: ranges rest
  | [] => []

/-- The inside of a bracket and what follows it. The first character is inside
even if it is a closing bracket. -/
def inside? (s : List Char) : Option (List Char × Nat) :=
  match s with
  | [] => none
  | first :: rest =>
    let more := rest.takeWhile (· != ']')
    if more.length < rest.length then some (first :: more, more.length + 2) else none

/-- The parts of a pattern; `before` is the character in front of the list. -/
def parts (before : Option Char) (s : List Char) : Option (List Part) :=
  match s with
  | [] => some []
  | '*' :: '*' :: '*' :: _ => none
  | '*' :: '*' :: rest =>
    if before.isNone || before = some '/' then
      match rest with
      | [] => some [.anyComponents]
      | '/' :: rest' => (parts (some '/') rest').map (.anyComponents :: ·)
      | _ => none
    else none
  | '*' :: rest => (parts (some '*') rest).map (.anyRun :: ·)
  | '?' :: rest => (parts (some '?') rest).map (.anyChar :: ·)
  | '[' :: '!' :: rest =>
    match inside? rest with
    | none => none
    | some (listed, n) =>
      (parts (some ']') (rest.drop n)).map (.noneOf (ranges listed) :: ·)
  | '[' :: rest =>
    match inside? rest with
    | none => none
    | some (listed, n) => (parts (some ']') (rest.drop n)).map (.oneOf (ranges listed) :: ·)
  | c :: rest => (parts (some c) rest).map (.char c :: ·)
termination_by s.length
decreasing_by
  all_goals simp only [List.length_cons, List.length_drop]
  all_goals omega

/-- Whether a part that stands for one character stands for `c`. -/
def Part.admits : Part → Char → Bool
  | .char d, c => c == d
  | .anyChar, _ => true
  | .oneOf listed, c => listed.any fun r => r.low ≤ c && c ≤ r.high
  | .noneOf listed, c => !listed.any fun r => r.low ≤ c && c ≤ r.high
  | .anyRun, _ => false
  | .anyComponents, _ => false

/-! ### Matching

A match is decided for all suffixes of a path at once. The answers form a list,
the path itself first and the empty suffix last, and each part of the pattern
turns the answers of the parts behind it into its own. So the time is that of one
pass over the path for each part, however often a run could be cut. -/

/-- Answers in which a suffix counts if it or a shorter one does. -/
def orShorter (answers : List Bool) : List Bool :=
  answers.foldr (fun b shorter => (b || shorter.headD false) :: shorter) []

/-- For each suffix of a path, whether a shorter one counts that starts behind a
slash, or the empty one does. -/
def behindSlash (s : List Char) (answers : List Bool) : List Bool :=
  (s.zip answers.tail).foldr
    (fun (c, b) shorter => ((c == '/' && b) || shorter.headD false) :: shorter)
    [answers.getLastD false]

/-- Whether parts match the whole of each suffix of a path. -/
def suffixAnswers (s : List Char) : List Part → List Bool
  | [] => s.map (fun _ => false) ++ [true]
  | .anyRun :: ps => orShorter (suffixAnswers s ps)
  | .anyComponents :: ps =>
    let answers := suffixAnswers s ps
    answers.zipWith or (behindSlash s answers)
  | p :: ps => s.zipWith (fun c b => p.admits c && b) (suffixAnswers s ps).tail ++ [false]

/-- Whether a pattern matches a path; what is no pattern matches nothing. -/
def isMatch (pattern path : String) : Bool :=
  match parts none pattern.toList with
  | none => false
  | some ps => (suffixAnswers path.toList ps).headD false

end WorkflowLint.Glob
