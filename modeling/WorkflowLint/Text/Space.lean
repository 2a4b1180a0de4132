/-!
# `WorkflowLint.Text.Space`: the characters that are white space

The Unicode property `White_Space`: the separators of texts that people write,
no-break spaces and line ends included. It has 25 members.
-/

set_option autoImplicit false

namespace WorkflowLint.Text

/-- Whether a character has the property `White_Space`. -/
def isSpace (c : Char) : Bool :=
  let n := c.toNat
  (0x09 ≤ n && n ≤ 0x0D) || n == 0x20 || n == 0x85 || n == 0xA0 || n == 0x1680 ||
    (0x2000 ≤ n && n ≤ 0x200A) || n == 0x2028 || n == 0x2029 || n == 0x202F ||
    n == 0x205F || n == 0x3000

/-- Whether a text consists of white space only; the empty text does. -/
def isBlank (s : String) : Bool := s.toList.all isSpace

end WorkflowLint.Text
