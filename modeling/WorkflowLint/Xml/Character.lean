/-!
# `WorkflowLint.Xml.Character`: the character classes of XML

White space, the characters a document may hold, and the characters names are
made of, as XML 1.0 (fifth edition) lists them. A name character is a name start
character, a digit, a hyphen, a full stop, the middle dot or one of two small
blocks of marks. Surrogates need no mention: they are no characters here.
-/

set_option autoImplicit false

namespace WorkflowLint.Xml

/-- White space of markup: space, tab, line feed, carriage return. -/
def isSpace (c : Char) : Bool := c = ' ' || c = '\t' || c = '\n' || c = '\r'

/-- Whether a document may hold the character. -/
def isLegal (c : Char) : Bool :=
  if c.toNat < 0x20 then isSpace c else c.toNat != 0xFFFE && c.toNat != 0xFFFF

/-- The characters a name may start with, as ranges of code points. -/
def nameStartRanges : List (Nat × Nat) :=
  [(0x3A, 0x3A), (0x41, 0x5A), (0x5F, 0x5F), (0x61, 0x7A), (0xC0, 0xD6), (0xD8, 0xF6),
   (0xF8, 0x2FF), (0x370, 0x37D), (0x37F, 0x1FFF), (0x200C, 0x200D), (0x2070, 0x218F),
   (0x2C00, 0x2FEF), (0x3001, 0xD7FF), (0xF900, 0xFDCF), (0xFDF0, 0xFFFD), (0x10000, 0xEFFFF)]

/-- The characters a name may go on with but not start with. -/
def nameMoreRanges : List (Nat × Nat) :=
  [(0x2D, 0x2E), (0x30, 0x39), (0xB7, 0xB7), (0x300, 0x36F), (0x203F, 0x2040)]

/-- Whether a name may start with the character. -/
def isNameStart (c : Char) : Bool :=
  nameStartRanges.any fun r => r.1 ≤ c.toNat && c.toNat ≤ r.2

/-- Whether a name may contain the character. -/
def isNameChar (c : Char) : Bool :=
  isNameStart c || nameMoreRanges.any fun r => r.1 ≤ c.toNat && c.toNat ≤ r.2

end WorkflowLint.Xml
