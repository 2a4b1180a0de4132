/-!
# `WorkflowLint.Xml.Error`: what can be wrong with a document

Each cause names the place where reading stopped, where there is one. The
wording is in `Error.message` alone. Where a single character was expected, the
message shows the first byte of the character that stands there instead, as the
character with that number.
-/

set_option autoImplicit false

namespace WorkflowLint.Xml

/-- A place in a text. Lines end at line feeds; both numbers start at one. -/
structure Position where
  line : Nat
  column : Nat
deriving DecidableEq, Repr

/-- The first place of a text. -/
def Position.first : Position := ⟨1, 1⟩

/-- The place behind the character `c`. -/
def Position.after (p : Position) (c : Char) : Position :=
  if c = '\n' then ⟨p.line + 1, 1⟩ else ⟨p.line, p.column + 1⟩

/-- A place as `line:column`. -/
def Position.text (p : Position) : String := toString p.line ++ ":" ++ toString p.column

/-- Why a text is not a document. -/
inductive Error where
  | documentType
  | noRoot
  | rootNotClosed
  | endOfText
  | unknownToken (here : Position)
  | misplacedDeclaration (here : Position)
  | expectedWord (word : String) (here : Position)
  | expectedChar (wanted found : Char) (here : Position)
  | expectedSpace (found : Char) (here : Position)
  | expectedQuote (found : Char) (here : Position)
  | badName (here : Position)
  | badComment (here : Position)
  | sectionEndInText (here : Position)
  | illegalChar (c : Char) (here : Position)
  | malformedReference (here : Position)
  | unknownEntity (name : String) (here : Position)
  | endTagMismatch (wanted found : String) (here : Position)
  | reservedElementLabel (here : Position)
  | reservedUri (here : Position)
  | xmlLabelElsewhere (here : Position)
  | xmlUriElsewhere (here : Position)
  | namespaceTwice (label : String) (here : Position)
  | unknownNamespace (label : String) (here : Position)
  | attributeTwice (name : String) (here : Position)
deriving DecidableEq, Repr

/-- The first byte of a character's UTF-8 form, as the character with that
number. -/
def leadingByte (c : Char) : Char :=
  let n := c.toNat
  if n < 0x80 then c
  else if n < 0x800 then Char.ofNat (0xC0 + n / 0x40)
  else if n < 0x10000 then Char.ofNat (0xE0 + n / 0x1000)
  else Char.ofNat (0xF0 + n / 0x40000)

/-- A character that no document may hold, written by its number. -/
def showIllegal (c : Char) : String :=
  if c.toNat = 0 then "'\\0'"
  else "'\\u\x7b" ++ String.ofList (Nat.toDigits 16 c.toNat) ++ "\x7d'"

/-- The complaint in words. -/
def Error.message : Error → String
  | documentType => "XML with DTD detected"
  | noRoot => "the document does not have a root node"
  | rootNotClosed => "the root node was opened but never closed"
  | endOfText => "unexpected end of stream"
  | unknownToken p => "unknown token at " ++ p.text
  | misplacedDeclaration p => "unexpected XML declaration at " ++ p.text
  | expectedWord w p => "expected '" ++ w ++ "' at " ++ p.text
  | expectedChar w c p =>
    "expected '" ++ w.toString ++ "' not '" ++ (leadingByte c).toString ++ "' at " ++ p.text
  | expectedSpace c p =>
    "expected a whitespace not '" ++ (leadingByte c).toString ++ "' at " ++ p.text
  | expectedQuote c p => "expected a quote not '" ++ (leadingByte c).toString ++ "' at " ++ p.text
  | badName p => "invalid name token at " ++ p.text
  | badComment p => "comment at " ++ p.text ++ " contains '--'"
  | sectionEndInText p => "']]>' at " ++ p.text ++ " is not allowed inside a character data"
  | illegalChar c p => "a non-XML character " ++ showIllegal c ++ " found at " ++ p.text
  | malformedReference p => "malformed entity reference at " ++ p.text
  | unknownEntity n p => "unknown entity reference '" ++ n ++ "' at " ++ p.text
  | endTagMismatch w f p => "expected '" ++ w ++ "' tag, not '" ++ f ++ "' at " ++ p.text
  | reservedElementLabel p => "the 'xmlns' prefix is used at " ++ p.text ++ ", but it must not be"
  | reservedUri p => "the 'xmlns' URI is used at " ++ p.text ++ ", but it must not be declared"
  | xmlLabelElsewhere p => "'xml' namespace prefix mapped to wrong URI at " ++ p.text
  | xmlUriElsewhere p => "the 'xml' namespace URI is used for not 'xml' prefix at " ++ p.text
  | namespaceTwice l p => "namespace '" ++ l ++ "' at " ++ p.text ++ " is already defined"
  | unknownNamespace l p => "an unknown namespace prefix '" ++ l ++ "' at " ++ p.text
  | attributeTwice n p => "attribute '" ++ n ++ "' at " ++ p.text ++ " is already defined"

end WorkflowLint.Xml
