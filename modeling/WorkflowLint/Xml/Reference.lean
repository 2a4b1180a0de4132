import WorkflowLint.Xml.Token

/-!
# `WorkflowLint.Xml.Reference`: character data with its references resolved

A passage is first read as a list of marks, each a character that stands there
itself (`literal`) or one that a reference names (`referenced`). Line ends and
white space are then put in order on that list, where referenced characters are
never changed: a line end that an author wrote as a reference is meant.

* In an attribute's value every tab and line end counts as one space.
* In text every line end counts as one line feed. A carriage return is settled
  by the mark behind it, so one in front of a reference stays.
-/

set_option autoImplicit false

namespace WorkflowLint.Xml

/-- A character of a passage, and whether a reference names it. -/
inductive Mark where
  | literal (c : Char)
  | referenced (c : Char)
deriving DecidableEq, Repr

/-- What stands behind an ampersand. -/
inductive Reference where
  | char (c : Char)
  | entity (name : String)
deriving DecidableEq, Repr

/-- The value of a digit in bases up to sixteen. -/
def digitValue (c : Char) : Nat :=
  if c.isDigit then c.toNat - '0'.toNat
  else if c.isUpper then c.toNat - 'A'.toNat + 10
  else c.toNat - 'a'.toNat + 10

/-- Whether a character is a digit of base sixteen. -/
def isHexDigit (c : Char) : Bool :=
  c.isDigit || ('a' ≤ c && c ≤ 'f') || ('A' ≤ c && c ≤ 'F')

/-- The number that a list of digits spells. -/
def numeral (base : Nat) (digits : List Char) : Nat :=
  digits.foldl (fun n d => base * n + digitValue d) 0

/-- The character with a number; numbers of no character stand for the
replacement character. Numbers beyond 32 bits are refused, and so are characters
that no document may hold. -/
def numbered? (n : Nat) : Option Char :=
  if n < 0x100000000 then
    let c := if n.isValidChar then Char.ofNat n else '\uFFFD'
    if isLegal c then some c else none
  else none

/-- The character that one of the five predefined names stands for. -/
def predefined? : String → Option Char
  | "quot" => some '"'
  | "amp" => some '&'
  | "apos" => some '\''
  | "lt" => some '<'
  | "gt" => some '>'
  | _ => none

/-- The reference behind an ampersand and the number of characters it takes
there, up to its semicolon. -/
def reference? (s : List Char) : Option (Reference × Nat) :=
  let closed (r : Reference) (n : Nat) : Option (Reference × Nat) :=
    if (s.drop n).head? = some ';' then some (r, n + 1) else none
  match s with
  | '#' :: 'x' :: t =>
    let digits := t.takeWhile isHexDigit
    if digits.isEmpty then none
    else (numbered? (numeral 16 digits)).bind fun c => closed (.char c) (2 + digits.length)
  | '#' :: t =>
    let digits := t.takeWhile Char.isDigit
    if digits.isEmpty then none
    else (numbered? (numeral 10 digits)).bind fun c => closed (.char c) (1 + digits.length)
  | _ =>
    if s.head?.any isNameStart then
      let name := s.takeWhile isNameChar
      let r : Reference :=
        match predefined? (String.ofList name) with
        | some c => .char c
        | none => .entity (String.ofList name)
      closed r name.length
    else none

/-- The marks of a list that starts at `here`, behind those in `acc`, which holds
the last one first. -/
def marksFrom (here : Position) (s : List Char) (acc : List Mark) : Except Error (List Mark) :=
  match s with
  | [] => .ok acc.reverse
  | c :: t =>
    if c = '&' then
      match reference? t with
      | none => .error (.malformedReference here)
      | some (.entity name, _) => .error (.unknownEntity name here)
      | some (.char x, n) =>
        marksFrom ((t.take n).foldl Position.after (here.after c)) (t.drop n)
          (.referenced x :: acc)
    else marksFrom (here.after c) t (.literal c :: acc)
termination_by s.length
decreasing_by
  all_goals simp only [List.length_cons, List.length_drop]
  all_goals omega

/-- The marks of a passage. -/
def Passage.marks (p : Passage) : Except Error (List Mark) := marksFrom p.here p.text []

/-- An attribute's value, last character first, behind what is in `acc`: tabs and
line ends are spaces, a carriage return with its line feed is one. -/
def valueFrom (acc : List Char) : List Mark → List Char
  | [] => acc
  | .literal '\r' :: .literal '\n' :: rest => valueFrom (' ' :: acc) rest
  | .literal c :: rest =>
    valueFrom ((if c = '\r' || c = '\n' || c = '\t' then ' ' else c) :: acc) rest
  | .referenced c :: rest => valueFrom (c :: acc) rest

/-- An attribute's value from its marks. -/
def valueOf (marks : List Mark) : List Char := (valueFrom [] marks).reverse

/-- Text read so far, last character first, and whether the last mark was a
reference. -/
structure TextBuffer where
  read : List Char
  verbatim : Bool

/-- Text with one more literal character, which is the last of the passage if
`last`. -/
def TextBuffer.push (b : TextBuffer) (c : Char) (last : Bool) : TextBuffer :=
  if b.verbatim then ⟨c :: b.read, false⟩
  else
    let settled := if last && c = '\r' then '\n' else c
    match b.read with
    | '\r' :: before =>
      if c = '\n' then ⟨'\n' :: before, false⟩ else ⟨settled :: '\n' :: before, false⟩
    | _ => ⟨settled :: b.read, false⟩

/-- Text from a list of marks, behind what is in the buffer. -/
def TextBuffer.fill (b : TextBuffer) : List Mark → TextBuffer
  | [] => b
  | .literal c :: rest => (b.push c rest.isEmpty).fill rest
  | .referenced c :: rest => TextBuffer.fill ⟨c :: b.read, true⟩ rest

/-- Character data with its line ends put in order. -/
def textOf (marks : List Mark) : List Char := (TextBuffer.fill ⟨[], false⟩ marks).read.reverse

/-- The value of an attribute from its passage. -/
def Passage.value (p : Passage) : Except Error String := do
  return String.ofList (valueOf (← p.marks))

/-- The text of a passage that may hold references. -/
def Passage.resolved (p : Passage) : Except Error String := do
  return String.ofList (textOf (← p.marks))

/-- The text of a passage in which every character stands for itself. -/
def Passage.verbatim (p : Passage) : String := String.ofList (textOf (p.text.map .literal))

end WorkflowLint.Xml
