import WorkflowLint.Counting
import WorkflowLint.Json.Fault

/-!
# `WorkflowLint.Json.Quoted`: texts between quotes

`quote` writes a text between quotes. `scan` reads one back in two steps: first
it cuts the characters into marks, each a character or a code unit given by
number, up to the closing quote; then `Mark.text` joins pairs of code units that
stand for one character. A text that is only skipped needs the first step alone.
-/

set_option autoImplicit false

namespace WorkflowLint.Json

/-! ### Writing -/

/-- The characters with an escape of their own, each with the letter that stands
for it behind a backslash. -/
def letters : List (Char × Char) :=
  [('"', '"'), ('\\', '\\'), ('\x08', 'b'), ('\x0c', 'f'), ('\n', 'n'), ('\r', 'r'), ('\t', 't')]

/-- A code unit below 256 by number. -/
def byNumber (n : Nat) : List Char :=
  ['\\', 'u', '0', '0', Nat.digitChar (n / 16), Nat.digitChar (n % 16)]

/-- A character as it is written between quotes: quotes, backslashes and control
characters are escaped. -/
def escape (c : Char) : List Char :=
  match letters.find? fun l => l.1 == c with
  | some (_, letter) => ['\\', letter]
  | none => if c.toNat < 0x20 then byNumber c.toNat else [c]

/-- A text between quotes. -/
def quote (s : String) : List Char := '"' :: (s.toList.flatMap escape ++ ['"'])

/-! ### Reading marks -/

/-- What stands for a character, or for half of one, between quotes. -/
inductive Mark where
  | char (c : Char)
  | unit (n : Nat)
deriving DecidableEq, Repr

/-- How the characters between quotes end. -/
inductive Ending where
  /-- By a quote, behind so many characters from the opening one, the closing
  quote included. -/
  | closed (width : Nat)
  /-- By a fault. If half a character stands in front of it, a reader who wants
  the other half complains with `half`. -/
  | cut (fault half : Fault)
deriving DecidableEq, Repr

/-- The value of a hexadecimal digit. -/
def hexDigit? (c : Char) : Option Nat :=
  if c.isDigit then some (c.toNat - '0'.toNat)
  else if 'a' ≤ c ∧ c ≤ 'f' then some (c.toNat - 'a'.toNat + 10)
  else if 'A' ≤ c ∧ c ≤ 'F' then some (c.toNat - 'A'.toNat + 10)
  else none

/-- The code unit with four hexadecimal digits. -/
def unit? (a b c d : Char) : Option Nat := do
  return (((← hexDigit? a) * 16 + (← hexDigit? b)) * 16 + (← hexDigit? c)) * 16 + (← hexDigit? d)

/-- The character that a letter behind a backslash stands for. -/
def unescape? (letter : Char) : Option Char :=
  if letter = '/' then some '/'
  else (letters.find? fun l => l.2 == letter).map (·.1)

/-- The complaint about fewer than four characters behind a backslash and a `u`.
The digits are looked for in the next four bytes. -/
def shortUnit (rest : List Char) : Fault :=
  if sumOf Char.utf8Size rest < 4 then .endInString else .invalidEscape

/-- The marks of the characters behind an opening quote, and how they end.
`done` holds the marks in front in reverse and `width` the number of their
characters. -/
def marks (done : List Mark) (width : Nat) : List Char → List Mark × Ending
  | [] => (done.reverse, .cut .endInString .endInString)
  | '"' :: _ => (done.reverse, .closed (width + 1))
  | ['\\'] => (done.reverse, .cut .endInString .endInString)
  | '\\' :: 'u' :: a :: b :: c :: d :: rest =>
    match unit? a b c d with
    | some n => marks (.unit n :: done) (width + 6) rest
    | none => (done.reverse, .cut .invalidEscape .invalidEscape)
  | '\\' :: 'u' :: rest => (done.reverse, .cut (shortUnit rest) (shortUnit rest))
  | '\\' :: letter :: rest =>
    match unescape? letter with
    | some c => marks (.char c :: done) (width + 2) rest
    | none => (done.reverse, .cut .invalidEscape .endOfHexEscape)
  | c :: rest =>
    if c.toNat < 0x20 then (done.reverse, .cut .controlCharacter .endOfHexEscape)
    else marks (.char c :: done) (width + 1) rest

/-! ### Joining marks -/

/-- Whether a code unit is the first half of a character. -/
def isHigh (n : Nat) : Bool := 0xD800 ≤ n && n < 0xDC00

/-- Whether a code unit is the second half of a character. -/
def isLow (n : Nat) : Bool := 0xDC00 ≤ n && n < 0xE000

/-- The character with two halves. -/
def paired (high low : Nat) : Char := Char.ofNat (0x10000 + (high - 0xD800) * 0x400 + (low - 0xDC00))

/-- The text of marks. `done` holds the characters in front in reverse. -/
def textOf (ending : Ending) (done : List Char) : List Mark → Except Fault String
  | [] =>
    match ending with
    | .closed _ => .ok (String.ofList done.reverse)
    | .cut fault _ => .error fault
  | .char c :: rest => textOf ending (c :: done) rest
  | .unit n :: rest =>
    if isLow n then .error .loneSurrogate
    else if isHigh n then
      match rest with
      | .unit k :: rest' =>
        if isLow k then textOf ending (paired n k :: done) rest' else .error .loneSurrogate
      | .char _ :: _ => .error .endOfHexEscape
      | [] =>
        match ending with
        | .closed _ => .error .endOfHexEscape
        | .cut _ half => .error half
    else textOf ending (Char.ofNat n :: done) rest

/-- What the characters behind an opening quote are: a text, which may turn out
to be unusable, with the number of its characters; or nothing that ends. -/
def scan (s : List Char) : Except Trouble (Except Fault String × Nat) :=
  let (found, ending) := marks [] 0 s
  let text := textOf ending [] found
  match ending with
  | .closed width => .ok (text, width)
  | .cut fault _ =>
    match text with
    | .error used => .error ⟨used, fault⟩
    | .ok _ => .error (.always fault)

end WorkflowLint.Json
