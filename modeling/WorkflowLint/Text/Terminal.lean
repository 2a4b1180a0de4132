/-!
# `WorkflowLint.Text.Terminal`: texts without control sequences

A text that was meant for a terminal can hold control characters, and sequences of
characters that an escape character starts. `plain` leaves both out and keeps what
can be read: every other character, tabs, line ends and form feeds included.

An escape character starts a sequence wherever it stands, and the characters
`0x18` and `0x1A` end one. Otherwise the character behind the escape decides how
far a sequence goes:

* `[` starts a control sequence, which goes on to a character from `@` to `~`;
* `]` starts a command, which goes on to the bell;
* `P` starts a device string: a head and contents, which go on to the byte `0x9C`;
* `X`, `^` and `_` start contents;
* any other character ends the sequence, intermediate ones from the space to the
  slash apart.

A tab or a line end inside of the first and the last kind is kept, and so is what
follows it: the sequence rests until the next character that is left out.
-/

set_option autoImplicit false

namespace WorkflowLint.Text.Terminal

/-- What a character is to a terminal. -/
inductive Role where
  /-- A control character that is left out. -/
  | control
  /-- A tab, line feed, form feed or carriage return. -/
  | layout
  /-- The end of every sequence. -/
  | cancel
  | escape
  /-- A character from the space to the slash. -/
  | intermediate
  /-- A digit or a character up to the question mark. -/
  | parameter
  /-- A character from the commercial at to the tilde. -/
  | final
  | other
deriving DecidableEq, Repr

/-- What a character is to a terminal. -/
def roleOf (c : Char) : Role :=
  let n := c.toNat
  if n == 0x1B then .escape
  else if n == 0x18 || n == 0x1A then .cancel
  else if n == 0x09 || n == 0x0A || n == 0x0C || n == 0x0D then .layout
  else if n < 0x20 || n == 0x7F then .control
  else if n < 0x30 then .intermediate
  else if n < 0x40 then .parameter
  else if n < 0x7F then .final
  else .other

/-- How far a sequence has got. -/
inductive Stage where
  /-- There is none. -/
  | text
  | escape
  /-- Behind an escape and intermediate characters. -/
  | escapeMore
  | control
  | command
  /-- In the head of a device string. -/
  | device
  /-- In the head of a device string, behind parameters. -/
  | deviceParameters
  /-- In the head of a device string, behind intermediate characters. -/
  | deviceMore
  | contents
deriving DecidableEq, Repr

/-- Whether the byte that ends contents is one of a character's bytes. -/
def endsContents (c : Char) : Bool := (String.utf8EncodeChar c).contains 0x9C

/-- The stage behind an escape and one more character. -/
def Stage.afterEscape (c : Char) : Stage :=
  match c with
  | '[' => .control
  | ']' => .command
  | 'P' => .device
  | 'X' => .contents
  | '^' => .contents
  | '_' => .contents
  | _ =>
    match roleOf c with
    | .intermediate => .escapeMore
    | .parameter => .text
    | .final => .text
    | _ => .escape

/-- The stage behind one more character of a sequence. -/
def Stage.next (s : Stage) (c : Char) : Stage :=
  match s, roleOf c with
  | .escape, _ => afterEscape c
  | .escapeMore, .parameter => .text
  | .escapeMore, .final => .text
  | .control, .final => .text
  | .command, _ => if c = '\x07' then .text else .command
  | .device, .intermediate => .deviceMore
  | .device, .parameter => .deviceParameters
  | .device, .final => .contents
  | .deviceParameters, .intermediate => .deviceMore
  | .deviceParameters, .parameter => if c < '<' then .deviceParameters else .contents
  | .deviceParameters, .final => .contents
  | .deviceMore, .parameter => .contents
  | .deviceMore, .final => .contents
  | .contents, _ => if endsContents c then .text else .contents
  | s, _ => s

/-- Whether tabs and line ends inside of a sequence are kept. -/
def Stage.keepsLayout : Stage → Bool
  | .escape => true
  | .escapeMore => true
  | .control => true
  | _ => false

/-- A place in a text. -/
structure State where
  stage : Stage := .text
  /-- Whether the sequence rests. -/
  rests : Bool := false
deriving DecidableEq, Repr

/-- The place behind one more character, and whether the character is kept. -/
def State.step (s : State) (c : Char) : State × Bool :=
  match roleOf c with
  | .escape => (⟨.escape, false⟩, false)
  | .cancel => (⟨.text, false⟩, false)
  | role =>
    if s.rests || s.stage == .text then
      match role with
      | .control => (⟨s.stage, false⟩, false)
      | .other => (⟨.text, false⟩, true)
      | _ => (⟨s.stage, true⟩, true)
    else
      let kept := role == .layout && s.stage.keepsLayout
      (⟨s.stage.next c, kept⟩, kept)

/-- What is kept of characters, from a place on. -/
def keep (s : State) : List Char → List Char
  | [] => []
  | c :: rest =>
    let (next, kept) := s.step c
    if kept then c :: keep next rest else keep next rest

/-- A text without control characters and control sequences. -/
def plain (text : String) : String := String.ofList (keep {} text.toList)

end WorkflowLint.Text.Terminal
