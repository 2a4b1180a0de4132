import WorkflowLint.Text.Search
import WorkflowLint.Xml.Cursor

/-!
# `WorkflowLint.Xml.Token`: the marks a document is made of

`tokens` cuts a text into start tags with their attributes, end tags, character
data and asides (comments and processing instructions). It keeps account of the
number of open elements only, to know when the root element is over; whether
tags match and what references and namespaces mean is decided later, on the
tokens. A text that breaks off or goes wrong still has the tokens in front of
that place: `Tokens.fault?` says why there are no more.

A text that ends directly behind a tag's name or behind an attribute's closing
quote has no fault: the unfinished tag is simply not there.
-/

set_option autoImplicit false

namespace WorkflowLint.Xml

/-- A name with an optional label in front of a colon; no label is the empty
text. -/
structure QName where
  label : String
  name : String
deriving DecidableEq, Repr

/-- A name as it is written. -/
def QName.text (q : QName) : String :=
  if q.label.isEmpty then q.name else q.label ++ ":" ++ q.name

/-- A passage of a text, with the place where it starts. -/
structure Passage where
  text : List Char
  here : Position
deriving DecidableEq, Repr

/-- A mark of a document, with the place where it starts where that matters. -/
inductive Token where
  /-- A start tag's name. Its attributes follow. -/
  | tagStart (name : QName) (here : Position)
  | attr (name : QName) (value : Passage) (here : Position)
  /-- The end of a start tag; an empty element ends here too. -/
  | tagEnd (empty : Bool)
  | endTag (name : QName) (here : Position)
  | text (passage : Passage)
  /-- Character data that holds no references. -/
  | literal (passage : Passage)
  /-- A comment or a processing instruction. -/
  | aside
deriving DecidableEq, Repr

/-- The tokens of a text as far as it can be read, and why there are no more. -/
structure Tokens where
  tokens : List Token
  fault? : Option Error

namespace Cursor

/-- Reads a name with an optional label. -/
def qname (c : Cursor) : Except Error (QName × c.Upto) :=
  let (read, r) := c.span isNameChar
  let starts (part : List Char) : Bool := part.head?.any isNameStart
  match Text.cut ':' read with
  | [name] => if starts name then .ok (⟨"", .ofList name⟩, r) else .error (.badName c.here)
  | [label, name] =>
    if (label.isEmpty || starts label) && starts name then
      .ok (⟨.ofList label, .ofList name⟩, r)
    else .error (.badName c.here)
  | _ => .error (.badName c.here)

/-- Reads a plain name, in which colons are ordinary. -/
def name (c : Cursor) : Except Error (String × c.Upto) :=
  if c.rest.head?.any isNameStart then
    let (read, r) := c.span isNameChar
    .ok (.ofList read, r)
  else .error (.badName c.here)

/-- Reads an attribute: a name, an equals sign, a value in quotes. -/
def readAttribute (c : Cursor) : Except Error (QName × Passage × c.Beyond) := do
  let (name, r₁) ← c.qname
  let r₂ := r₁.val.spaces
  let r₃ ← r₂.val.expect '='
  let r₄ := r₃.val.spaces
  match r₄.val.next? with
  | none => .error .endOfText
  | some (q, r₅) =>
    if q = '"' || q = '\'' then
      let (value, r₆) ← r₅.val.chars fun x => x != q && x != '<'
      let r₇ ← r₆.val.expect q
      .ok (name, ⟨value, r₅.val.here⟩, ⟨r₇.val, by
        have := r₁.property; have := r₂.property; have := r₃.property; have := r₄.property
        have := r₅.property; have := r₆.property; have := r₇.property; omega⟩)
    else .error (.expectedQuote q r₄.val.here)

/-- Reads the white space that separates the parts of a declaration; at the end
of the declaration there need be none. -/
def declarationSpace (c : Cursor) : Except Error c.Upto :=
  match c.rest with
  | x :: _ =>
    if isSpace x || c.startsWith "?>" then .ok c.spaces else .error (.expectedSpace x c.here)
  | [] => .ok ⟨c, Nat.le_refl _⟩

/-- Reads one optional part of a declaration, which starts with `word`. -/
def declarationPart (c : Cursor) (word : String) : Except Error c.Upto := do
  if c.startsWith word then
    let (_, _, r) ← c.readAttribute
    .ok ⟨r.val, Nat.le_of_lt r.property⟩
  else .ok ⟨c, Nat.le_refl _⟩

/-- Reads the declaration at the front of a document. Of its parts only the
first letters of their names are looked at. -/
def declaration (c : Cursor) : Except Error c.Upto := do
  let r₁ := c.skip 5
  let r₂ ← r₁.val.declarationSpace
  if !r₂.val.startsWith "version" then
    throw (.expectedWord "version" r₂.val.here)
  let r₃ ← r₂.val.declarationPart "version"
  let r₄ ← r₃.val.declarationSpace
  let r₅ ← r₄.val.declarationPart "encoding"
  let r₆ : r₅.val.Upto ←
    if r₄.val.startsWith "encoding" then r₅.val.declarationSpace
    else pure ⟨r₅.val, Nat.le_refl _⟩
  let r₇ ← r₆.val.declarationPart "standalone"
  let r₈ := r₇.val.spaces
  match r₈.val.word? '?' ['>'] with
  | none => .error (.expectedWord "?>" r₈.val.here)
  | some r₉ => .ok ⟨r₉.val, by
      have := r₁.property; have := r₂.property; have := r₃.property; have := r₄.property
      have := r₅.property; have := r₆.property; have := r₇.property; have := r₈.property
      have := r₉.property; omega⟩

/-- Reads the rest of a processing instruction that starts at `here`. -/
def instruction (c : Cursor) : Except Error c.Upto := do
  let (_, r₁) ← c.name
  let r₂ := r₁.val.spaces
  let (_, r₃) ← r₂.val.upTo "?>"
  .ok ⟨r₃.val, by have := r₁.property; have := r₂.property; have := r₃.property; omega⟩

/-- Reads the rest of a comment that starts at `here`. Two hyphens may stand at
its end only. -/
def comment (c : Cursor) (here : Position) : Except Error c.Upto := do
  let (read, r) ← c.upTo "-->"
  if Text.occursIn ['-', '-'] read || read.getLast? == some '-' then
    .error (.badComment here)
  else .ok r

/-- An aside that starts at a cursor. -/
def aside? (c : Cursor) : Option (Except Error c.Beyond) :=
  match c.word? '<' ['!', '-', '-'] with
  | some r => some do
    let r' ← r.val.comment c.here
    .ok ⟨r'.val, Nat.lt_of_le_of_lt r'.property r.property⟩
  | none =>
    match c.word? '<' ['?'] with
    | none => none
    | some r => some do
      if c.startsWith "<?xml " then
        throw (.misplacedDeclaration c.here)
      let r' ← r.val.instruction
      .ok ⟨r'.val, Nat.lt_of_le_of_lt r'.property r.property⟩

end Cursor

/-- Where in a document the reading stands. -/
inductive Mode where
  /-- In front of the root element. -/
  | before
  /-- In a start tag, with so many elements open around it. -/
  | tag (depth : Nat)
  /-- Inside an element, with so many open, itself included. -/
  | content (depth : Nat)
  /-- Behind the root element. -/
  | after

/-- Where the reading stands once `depth` elements are open. -/
def Mode.inside : Nat → Mode
  | 0 => .after
  | depth + 1 => .content (depth + 1)

/-- One step of the reading: what it found and how it goes on. -/
inductive Step (c : Cursor) where
  | done
  | fault (e : Error)
  | more (found : List Token) (mode : Mode) (rest : c.Beyond)

/-- The result of reading something that starts behind `c`. -/
def Step.ofExcept {c : Cursor} : Except Error (List Token × Mode × c.Beyond) → Step c
  | .ok (found, mode, rest) => .more found mode rest
  | .error e => .fault e

/-- Reads a start tag's name at the cursor's `<`; `depth` elements are open. -/
def startTag (c : Cursor) (depth : Nat) (r : c.Beyond) :
    Except Error (List Token × Mode × c.Beyond) := do
  let (name, r') ← r.val.qname
  .ok ([.tagStart name c.here], .tag depth, ⟨r'.val, Nat.lt_of_le_of_lt r'.property r.property⟩)

/-- A step outside of the root element. -/
def outsideStep (before : Bool) (c₀ : Cursor) : Step c₀ :=
  let s := c₀.spaces
  let c := s.val
  let lift (r : c.Beyond) : c₀.Beyond := ⟨r.val, Nat.lt_of_lt_of_le r.property s.property⟩
  match c.aside? with
  | some (.ok r) => .more [] (if before then .before else .after) (lift r)
  | some (.error e) => .fault e
  | none =>
    match c.next? with
    | none => .done
    | some (x, r) =>
      if before && c.startsWith "<!DOCTYPE" then .fault .documentType
      else if before && x = '<' then
        match startTag c 0 r with
        | .ok (found, mode, r') => .more found mode (lift r')
        | .error e => .fault e
      else .fault (.unknownToken c.here)

/-- A step inside of a start tag. -/
def tagStep (depth : Nat) (c₀ : Cursor) : Step c₀ :=
  if c₀.rest.isEmpty then .done
  else
    let s := c₀.spaces
    let c := s.val
    let lift (r : c.Beyond) : c₀.Beyond := ⟨r.val, Nat.lt_of_lt_of_le r.property s.property⟩
    match c.next? with
    | none => .fault .endOfText
    | some (x, r) =>
      if x = '/' then
        match r.val.expect '>' with
        | .ok r' =>
          .more [.tagEnd true] (.inside depth) (lift ⟨r'.val, Nat.lt_trans r'.property r.property⟩)
        | .error e => .fault e
      else if x = '>' then .more [.tagEnd false] (.content (depth + 1)) (lift r)
      else if !c₀.rest.head?.any isSpace then .fault (.expectedSpace x c.here)
      else
        match c.readAttribute with
        | .ok (name, value, r') => .more [.attr name value c.here] (.tag depth) (lift r')
        | .error e => .fault e

/-- Reads a section of literal character data behind its opening mark. -/
def literalSection (c : Cursor) (depth : Nat) (r : c.Beyond) :
    Except Error (List Token × Mode × c.Beyond) := do
  let (read, r') ← r.val.upTo "]]>"
  .ok ([.literal ⟨read, r.val.here⟩], .content depth,
    ⟨r'.val, Nat.lt_of_le_of_lt r'.property r.property⟩)

/-- Reads an end tag behind its opening mark. -/
def endTag (c : Cursor) (depth : Nat) (r : c.Beyond) :
    Except Error (List Token × Mode × c.Beyond) := do
  let (name, r₁) ← r.val.qname
  let r₂ := r₁.val.spaces
  let r₃ ← r₂.val.expect '>'
  .ok ([.endTag name c.here], .inside (depth - 1), ⟨r₃.val, by
    have := r.property; have := r₁.property; have := r₂.property; have := r₃.property; omega⟩)

/-- Reads character data up to the next markup; `x` is its first character. -/
def characterData (c : Cursor) (depth : Nat) (x : Char) (r : c.Beyond) :
    Except Error (List Token × Mode × c.Beyond) := do
  Cursor.legal c.here [x]
  let (read, r') ← r.val.chars fun y => y != '<'
  if Text.occursIn [']', ']', '>'] (x :: read) then
    throw (.sectionEndInText r'.val.here)
  .ok ([.text ⟨x :: read, c.here⟩], .content depth,
    ⟨r'.val, Nat.lt_of_le_of_lt r'.property r.property⟩)

/-- A step inside of an element. -/
def contentStep (depth : Nat) (c : Cursor) : Step c :=
  match c.next? with
  | none => .done
  | some (x, r) =>
    if x = '<' then
      match c.aside? with
      | some (.ok r') => .more [.aside] (.content depth) r'
      | some (.error e) => .fault e
      | none =>
        match c.word? '<' "![CDATA[".toList with
        | some r' => .ofExcept (literalSection c depth r')
        | none =>
          match r.val.next? with
          | none => .fault (.unknownToken c.here)
          | some (y, r') =>
            if y = '!' then .fault (.unknownToken c.here)
            else if y = '/' then
              .ofExcept (endTag c depth ⟨r'.val, Nat.lt_trans r'.property r.property⟩)
            else .ofExcept (startTag c depth r)
    else .ofExcept (characterData c depth x r)

/-- One step of the reading. -/
def step : Mode → (c : Cursor) → Step c
  | .before, c => outsideStep true c
  | .tag depth, c => tagStep depth c
  | .content depth, c => contentStep depth c
  | .after, c => outsideStep false c

/-- The tokens from a cursor on, behind those in `acc`, which holds the last one
first. -/
def tokensFrom (mode : Mode) (c : Cursor) (acc : List Token) : Tokens :=
  match step mode c with
  | .done => ⟨acc.reverse, none⟩
  | .fault e => ⟨acc.reverse, some e⟩
  | .more found mode' rest => tokensFrom mode' rest.val (found.reverse ++ acc)
termination_by c.size
decreasing_by exact rest.property

/-- The tokens of a text. A byte order mark in front is passed over, and so is a
declaration. -/
def tokens (text : List Char) : Tokens :=
  let c := Cursor.start text
  let c := if text.head? = some '\uFEFF' then (c.skip 1).val else c
  if c.startsWith "<?xml " then
    match c.declaration with
    | .ok r => tokensFrom .before r.val []
    | .error e => ⟨[], some e⟩
  else tokensFrom .before c []

end WorkflowLint.Xml
